import AcceptorHost.Link.Script
import AcceptorHost.Proofs.Chronicle
import AcceptorHost.Proofs.LibraryCalls
import AcceptorHost.Proofs.NestedOperations
import AcceptorHost.Proofs.Plans
import AcceptorHost.Proofs.Replies
import AcceptorHost.Proofs.TickLaws

/-!
# Recovery

Over a serial library a tick whose dealings go well leaves the link healthy, whatever it
serves and wherever the port stands when it begins: the port is open or opened, and stays
open until the tick's own closing of it.  A listener may tick meanwhile; its ticks make good
dealings too, so they leave the port open.  On the loop's own thread no listener closes the
port either.  Beside it a listener can wait for the loop to end, which closes the port; such
a tick is left out, by the entry that tells of that end.
-/

namespace AcceptorHost

/-- A reaction halts in a fault or asks for an operation. -/
def Reaction.isContained : Reaction → Bool
  | .halts h => h.isFault
  | .performs _ => true

/-- What happens now happens on the loop's thread, unless it may happen beside it. -/
def Courier.OnThread (beside : Bool) (c : Courier) : Prop :=
  beside = true ∨ c.control.thread = .running

/-- Along a run the library answers, and an open port stays open if the dealings go smoothly. -/
def Passage.afloat
    {σ : Type}
    (lib : SerialLibrary σ)
    (beside : Bool) :
    Passage (World (SerialLine σ) Audience) where
  holds w t v :=
    t.library lib w.library = v.library
      ∧ (t.smooth lib beside w.library = true → w.port.isOpen = true → v.port.isOpen = true)
  stay _ := ⟨rfl, fun _ h => h⟩
  onward := by
    rintro w t v u x ⟨hlibrary, hopen⟩ ⟨klibrary, kopen⟩
    refine ⟨by rw [Trace.library_append, hlibrary, klibrary], fun hsmooth hw => ?_⟩
    rw [Trace.smooth_append, Bool.and_eq_true, hlibrary] at hsmooth
    exact kopen hsmooth.2 (hopen hsmooth.1 hw)

namespace World

variable {σ : Type} {lib : SerialLibrary σ} {beside : Bool} {ok : Reaction → Bool}

/-! ## Steps among listeners -/

variable (lib beside ok) in
/-- The library answers along a run among listeners. -/
abbrev answering : Passage (World (SerialLine σ) Audience) :=
  (Passage.answered lib library).amid (Courier.OnThread beside) ok

variable (lib beside ok) in
/-- A port stays open along a run among listeners. -/
abbrev floating : Passage (World (SerialLine σ) Audience) :=
  (Passage.afloat lib beside).amid (Courier.OnThread beside) ok

theorem answering_of_floating
    {α : Type}
    {x : Run (World (SerialLine σ) Audience) α}
    (h : Run.Follows (floating lib beside ok) x) :
    Run.Follows (answering lib beside ok) x := by
  intro w hw
  obtain ⟨⟨hlibrary, -⟩, hv⟩ := h w hw
  exact ⟨hlibrary, hv⟩

theorem answering_onPort
    {α : Type}
    {x : Run (SerialLine σ) α}
    (hx : Run.Follows (.answered lib SerialLine.library) x) :
    Run.Follows (answering lib beside ok) (onPort x) := fun _ hw =>
  ⟨hx _, hw⟩

theorem floating_emit
    {e : Entry}
    (he : e.isCall = false) :
    Run.Follows (floating lib beside ok) (Run.emit e) := fun w hw =>
  ⟨⟨Entry.library_of_not_isCall lib he w.library, fun _ h => h⟩, hw⟩

theorem floating_change
    {f : Courier → Courier}
    (hf : ∀ c, Courier.OnThread beside c → Courier.OnThread beside (f c)) :
    Run.Follows (floating lib beside ok) (change f) := fun _ hw =>
  ⟨⟨rfl, fun _ h => h⟩, hf _ hw.1, hw.2⟩

/-- A tick may happen among listeners as far as the library's answers go. -/
theorem answering_permits
    (p : SerialPort)
    {deliver : Deliver (SerialLine σ) Audience}
    (hdeliver : ∀ l e, Run.Follows (floating lib beside ok) (deliver l e)) :
    (answering lib beside ok).Permits (p.port lib) deliver where
  log _ _ _ := answering_of_floating (floating_emit rfl)
  failed _ _ := answering_of_floating (floating_emit rfl)
  slept _ := answering_of_floating (floating_emit rfl)
  mailbox _ := answering_of_floating (floating_change fun _ h => h)
  turned := answering_of_floating (floating_change fun _ h => h)
  record _ := answering_of_floating (floating_change fun _ h => h)
  connect := answering_onPort p.answered_connect
  disconnect := answering_onPort p.answered_disconnect
  discard := answering_onPort p.answered_discard
  send bs := answering_onPort (p.answered_send bs)
  receive n timeout := answering_onPort (p.answered_receive n timeout)
  delivered l e := answering_of_floating (hdeliver l e)

/-! ## A smooth tick -/

variable (beside ok) in
/-- Listeners are as they may be, and the port is open. -/
structure Floats (w : World (SerialLine σ) Audience) : Prop where
  attended : Attended (Courier.OnThread beside) ok w
  isOpen : w.port.isOpen = true

variable {w : World (SerialLine σ) Audience}

theorem sails_change
    {f : Courier → Courier}
    (hf : ∀ c, Courier.OnThread beside c → Courier.OnThread beside (f c))
    (hw : Floats beside ok w) :
    Run.Sails lib beside library (change f) w fun _ r => Floats beside ok r :=
  .change rfl ⟨⟨hf _ hw.attended.1, hw.attended.2⟩, hw.isOpen⟩

theorem sails_log
    (level : Int)
    (text : String)
    (hw : Floats beside ok w) :
    Run.Sails lib beside library (Run.log level text) w fun _ r => Floats beside ok r :=
  .emit rfl hw

theorem sails_command
    (build : Courier → List UInt8)
    (hw : Floats beside ok w) :
    Run.Sails lib beside library (command build) w fun _ r => Floats beside ok r := by
  refine Run.Sails.look.bind ?_
  rintro bytes r ⟨-, rfl⟩
  exact Run.Sails.bind (sails_change (fun _ h => h) hw) fun _ _ hs => .give hs

variable (p : SerialPort)

/-- What leaves the port open leaves the world afloat. -/
theorem sails_open
    {α : Type}
    {x : Run (SerialLine σ) α}
    (hw : Attended (Courier.OnThread beside) ok w)
    (hx : Run.Sails lib beside SerialLine.library x w.port fun _ r => r.isOpen = true) :
    Run.Sails lib beside library (onPort x) w fun _ r => Floats beside ok r := by
  refine (sails_onPort hx).mono fun _ r => ?_
  rintro ⟨hopen, hcourier, haudience⟩
  exact ⟨hw.of_eq hcourier haudience, hopen⟩

theorem sails_ensureOpen
    (hw : Attended (Courier.OnThread beside) ok w) :
    Run.Sails lib beside library (ensureOpen (p.port lib)) w fun _ r => Floats beside ok r := by
  refine Run.Sails.look.bind ?_
  rintro _ r ⟨rfl, rfl⟩
  exact .ite (fun hopen => .give ⟨hw, hopen⟩) fun _ => sails_open hw p.sails_connect

section Tick

variable {deliver : Deliver (SerialLine σ) Audience}
  (hdeliver : Mild (Courier.OnThread beside) ok (.afloat lib beside) deliver)
  (hfaults : ∀ h, ok (.halts h) = true → h.isFault = true)
include hdeliver hfaults

theorem sails_fire
    (e : Event)
    (hw : Floats beside ok w) :
    Run.Sails lib beside library (fire deliver e) w fun _ r => Floats beside ok r := by
  intro hsmooth
  have hfollows : Run.Follows (floating lib beside ok) (fire deliver e) :=
    Run.Follows.fire hdeliver.follows (fun _ _ => floating_emit rfl) e
  obtain ⟨⟨hlibrary, hopen⟩, hattended⟩ := hfollows w hw.attended
  have hok := hdeliver.fire_ok (fun _ _ => floating_emit rfl) hfaults e hw.attended
  exact ⟨(), hok, hlibrary, hattended, hopen hsmooth hw.isOpen⟩

theorem sails_fireAll :
    ∀ (es : List Event) {w : World (SerialLine σ) Audience}, Floats beside ok w →
      Run.Sails lib beside library (fireAll deliver es) w fun _ r => Floats beside ok r
  | [], _, hw => .give hw
  | e :: rest, _, hw =>
      (sails_fire hdeliver hfaults e hw).bind fun _ _ hr => sails_fireAll rest hr

theorem sails_transmit
    (bs : List UInt8)
    (hw : Floats beside ok w) :
    Run.Sails lib beside library (transmit (p.port lib) deliver bs) w
      fun _ r => Floats beside ok r :=
  (sails_fire hdeliver hfaults _ hw).bind fun _ _ hr =>
    sails_open hr.attended (p.sails_send bs hr.isOpen)

/-- A smooth collection returns whether the reply is a frame or not. -/
theorem sails_collect
    (hw : Floats beside ok w) :
    Run.Sails lib beside library (collect (p.port lib) deliver) w
      fun _ r => Floats beside ok r := by
  refine Run.Sails.look.bind ?_
  rintro timeout r ⟨-, rfl⟩
  refine (sails_onPort (p.sails_receive timeout hw.isOpen)).bind ?_
  rintro _ s ⟨⟨⟨reply, rfl, -⟩, hopen⟩, hcourier, haudience⟩
  have hs : Floats beside ok s := ⟨hw.attended.of_eq hcourier haudience, hopen⟩
  refine (sails_fire hdeliver hfaults _ hs).bind fun _ t ht => .ite (fun _ => ?_) fun _ => ?_
  · exact .give ht
  · have hdiscard : Run.Sails lib beside SerialLine.library (p.discard lib) t.port
        fun _ l => l.isOpen = true := by
      refine p.sails_discard.mono fun _ l hheld => ?_
      rw [SerialLine.isOpen, hheld]
      exact ht.isOpen
    exact (sails_open ht.attended hdiscard).bind fun _ _ hu =>
      (sails_log _ _ hu).bind fun _ _ hv => .give hv

theorem sails_pollState
    (hw : Floats beside ok w) :
    Run.Sails lib beside library (pollState (p.port lib) deliver) w
      fun _ r => Floats beside ok r := by
  refine (sails_command _ hw).bind fun bytes _ hr => ?_
  refine (sails_transmit p hdeliver hfaults bytes hr).bind fun _ _ hs => ?_
  refine (sails_collect p hdeliver hfaults hs).bind fun reply _ ht => ?_
  refine .ite (fun _ => .give ht) fun _ => Run.Sails.look.bind ?_
  rintro packet _ ⟨-, rfl⟩
  exact Run.Sails.bind (sails_change (fun _ h => h) ht) fun _ _ hu =>
    sails_fireAll hdeliver hfaults _ hu

/-- The closing in the middle of a reset takes the object away, and the opening after it
brings a new one. -/
theorem sails_resetAcceptor
    (hw : Floats beside ok w) :
    Run.Sails lib beside library (resetAcceptor (p.port lib) deliver) w
      fun _ r => Floats beside ok r := by
  refine (sails_log _ _ hw).bind fun _ _ hr => ?_
  refine (sails_command _ hr).bind fun bytes _ hs => ?_
  refine (sails_transmit p hdeliver hfaults bytes hs).bind fun _ t ht => ?_
  refine (sails_onPort p.sails_disconnect).bind ?_
  rintro _ u ⟨-, hcourier, haudience⟩
  have hu : Attended (Courier.OnThread beside) ok u := ht.attended.of_eq hcourier haudience
  have hrest : Run.Sails lib beside library (Run.emit (.slept resetRest)) u
      fun _ r => Attended (Courier.OnThread beside) ok r := .emit rfl hu
  refine hrest.bind fun _ _ hv => ?_
  exact (sails_open hv p.sails_connect).bind fun _ _ hx => sails_log _ _ hx

theorem sails_queryIdentity
    (hw : Floats beside ok w) :
    Run.Sails lib beside library (queryIdentity (p.port lib) deliver) w
      fun _ r => Floats beside ok r := by
  refine (sails_log _ _ hw).bind fun _ _ hr => ?_
  refine (sails_command _ hr).bind fun bytes _ hs => ?_
  refine (sails_transmit p hdeliver hfaults bytes hs).bind fun _ _ ht => ?_
  refine (sails_collect p hdeliver hfaults ht).bind fun reply _ hu => ?_
  refine .ite (fun _ => sails_log _ _ hu) fun hlong => Run.Sails.look.bind ?_
  rintro unsigned _ ⟨-, rfl⟩
  have hsize : ((reply.drop serialNumberOffset).take SerialNumber.size).length =
      SerialNumber.size := by
    simp only [List.length_take, List.length_drop]
    omega
  obtain ⟨text, htext⟩ := SerialNumber.ofBytes_of_length_eq unsigned hsize
  have hgiven : Run.Sails lib beside library (Run.ofExcept (.ok text)) _
      fun _ r => Floats beside ok r := .give hu
  rw [htext]
  refine hgiven.bind fun _ _ hv => ?_
  exact Run.Sails.bind (sails_change (fun _ h => h) hv) fun _ _ hx => sails_log _ _ hx

theorem sails_serve
    (request : Option Request)
    (hw : Floats beside ok w) :
    Run.Sails lib beside library (serve (p.port lib) deliver request) w
      fun _ r => Floats beside ok r := by
  cases request with
  | none =>
      exact sails_pollState p hdeliver hfaults hw
  | some r =>
      cases r with
      | identity =>
          exact sails_queryIdentity p hdeliver hfaults hw
      | reset =>
          exact sails_resetAcceptor p hdeliver hfaults hw

/-- A smooth exchange is completed, wherever the port stood before. -/
theorem sails_exchange
    (request : Option Request)
    (hw : Attended (Courier.OnThread beside) ok w) :
    Run.Sails lib beside library (exchange (p.port lib) deliver request) w fun completed r =>
      completed = true ∧ Floats beside ok r := by
  refine .handle ((sails_ensureOpen p hw).bind fun _ _ hr => ?_)
  exact (sails_serve p hdeliver hfaults request hr).bind fun _ _ hs => .give ⟨rfl, hs⟩

/-- A smooth tick leaves the link healthy and the port open. -/
theorem sails_tick
    (hw : Attended (Courier.OnThread beside) ok w) :
    Run.Sails lib beside library (tick (p.port lib) deliver) w fun _ r =>
      Floats beside ok r
        ∧ r.courier.record.healthy = true ∧ r.courier.record.failures = 0 := by
  have htake : Run.Sails lib beside library takeRequest w
      fun _ r => Attended (Courier.OnThread beside) ok r := by
    refine Run.Sails.look.bind ?_
    rintro taken _ ⟨-, rfl⟩
    exact Run.Sails.bind (.change rfl hw) fun _ _ hr => .give hr
  refine htake.bind fun request _ hr => (sails_exchange p hdeliver hfaults request hr).bind ?_
  rintro completed s ⟨rfl, hs⟩
  refine Run.Sails.bind (.change rfl ?_) fun _ _ h => .give h
  exact ⟨⟨hs.attended, hs.isOpen⟩, rfl, rfl⟩

/-- A tick leaves the port open if it is smooth, wherever the port stood before. -/
theorem floating_tick :
    Run.Follows (floating lib beside ok) (tick (p.port lib) deliver) := by
  intro w hw
  obtain ⟨hlibrary, hv⟩ := (answering_permits p hdeliver.follows).tick w hw
  refine ⟨⟨hlibrary, fun hsmooth _ => ?_⟩, hv⟩
  obtain ⟨-, -, -, hfloats, -⟩ := sails_tick p hdeliver hfaults hw hsmooth
  exact hfloats.isOpen

end Tick

/-! ## What listeners bring about -/

/-- Beside the loop its end may come, but then the trace is not smooth. -/
theorem floating_concludes :
    (floating lib true ok).Concludes (p.port lib) where
  log _ _ _ := floating_emit rfl
  died _ := floating_emit rfl
  control _ := floating_change fun _ _ => Or.inl rfl
  waited _ := floating_emit rfl
  finished {next} hnext := by
    have hcloses : (answering lib true ok).Concludes (p.port lib) :=
      Passage.concludes_of_emit
        (fun _ he => answering_of_floating (floating_emit (Entry.isCall_of_isInert he)))
        (fun _ => answering_of_floating (floating_change fun _ _ => Or.inl rfl))
        (answering_onPort p.answered_disconnect)
    intro w hw
    obtain ⟨hlibrary, hv⟩ := hcloses.finished (answering_of_floating hnext) w hw
    refine ⟨⟨hlibrary, fun hsmooth => ?_⟩, hv⟩
    have hends := concludeThread_finish_endsLoop (p.port lib) next w
    simp [Trace.smooth, hends] at hsmooth

/-- Whatever listeners ask for that halt only in faults, the port stays open. -/
theorem afloat_bears
    (hfaults : ∀ h, ok (.halts h) = true → h.isFault = true) :
    (Passage.afloat lib beside).Bears (Courier.OnThread beside) ok (p.port lib) := by
  have hunaudited : (Passage.afloat lib beside).Unaudited := fun _ _ => ⟨rfl, fun _ h => h⟩
  cases beside with
  | true =>
      -- a stop may wait for the end of the loop here, and is not smooth if it does
      exact (floating_concludes p).bears (fun _ he => floating_emit he) hunaudited
        (fun _ => floating_change fun _ h => h) fun _ _ hdeliver => floating_tick p hdeliver hfaults
  | false =>
      -- the thread stays at work, so a stop does not wait and a pass finds nothing to do
      refine ⟨fun _ he _ => floating_emit he, hunaudited, fun hdeliver op _ => ?_⟩
      refine Passage.perform_of_running (fun w hw => ?_) (fun _ _ => floating_emit rfl)
        (fun f hthread _ => floating_change fun c hc => ?_) (fun _ => floating_change fun _ h => h)
        (fun e => Run.Follows.fire hdeliver.follows (fun _ _ => floating_emit rfl) e)
        fun _ => floating_tick p hdeliver hfaults
      · exact hw.1.resolve_left Bool.false_ne_true
      · exact Or.inr ((hthread c.control).trans (hc.resolve_left Bool.false_ne_true))

/-! ## Recovery from any state -/

/-- From whatever state, after whatever operations, a tick whose dealings with the serial
library go well returns and leaves the link healthy with no failure counted, if it is on the
loop's own thread or no loop ends in it. -/
theorem tick_recovers
    (lib : SerialLibrary σ)
    (ops : List Operation)
    {w : World (SerialLine σ) Audience}
    (hplans : w.audience.Plans Reaction.isContained) :
    ∀ v ∈ tickStarts (p.port lib) ops w,
      let r := tickAmong (p.port lib) v
      r.trace.goesWell lib v.library = true →
        (v.courier.control.thread = .running ∨ r.trace.endsLoop = false) →
          r.result = .ok ()
            ∧ r.state.courier.record.healthy = true ∧ r.state.courier.record.failures = 0 := by
  intro v hv r hwell hplace
  have hcontained : v.audience.Plans Reaction.isContained := plans_tickStarts ops hplans v hv
  have hfaults (h : Halt) (hh : (Reaction.halts h).isContained = true) : h.isFault = true := hh
  have hsails
      (beside : Bool)
      (hplaced : Courier.OnThread beside v.courier)
      (hsmooth : r.trace.smooth lib beside v.library = true) :
      r.result = .ok ()
        ∧ r.state.courier.record.healthy = true ∧ r.state.courier.record.failures = 0 := by
    have hbears : (Passage.afloat lib beside).Bears (Courier.OnThread beside)
        Reaction.isContained (p.port lib) := afloat_bears p hfaults
    obtain ⟨_, hok, -, -, hrecord⟩ :=
      sails_tick p (hbears.mild v.audience.depth) hfaults ⟨hplaced, hcontained⟩ hsmooth
    exact ⟨hok, hrecord⟩
  rcases hplace with hrunning | hends
  · refine hsails false (Or.inr hrunning) ?_
    simp [Trace.smooth, hwell]
  · refine hsails true (Or.inl rfl) ?_
    simp [Trace.smooth, hwell, hends]

/-- A courier that nobody has used yet, over a serial library, with every member registered. -/
def unopened
    (library : σ)
    (audience : Audience) :
    World (SerialLine σ) Audience where
  courier := (unused library audience).courier
  port := ⟨none, library⟩
  audience := audience

/-- An opening that fails half-way keeps its object; a reset after it recovers. -/
theorem tick_recovers_half_opened :
    let p : SerialPort := ⟨.text "COM1", .int 9600, .null⟩
    let w := unopened ⟨[("reset_input", [.halts (.fault (.device .runtime "stuck"))])], .nothing⟩
      [⟨⟨"rec", .null⟩, []⟩]
    let v := reached (p.port Script.serialLibrary) [.poll, .request .reset] w
    let r := tickAmong (p.port Script.serialLibrary) v
    (v.port.held = some true ∧ v.courier.record.failures = 1)
      ∧ r.result = .ok () ∧ r.state.courier.record.healthy = true
      ∧ r.state.courier.record.failures = 0 := by
  intro p w v r
  have hplans : w.audience.Plans Reaction.isContained := by
    intro m hm now hnow
    rw [List.mem_singleton.mp hm] at hnow
    cases hnow
  have hstart : v ∈ tickStarts (p.port Script.serialLibrary) [.poll, .request .reset, .poll] w :=
    mem_tickStarts [.poll, .request .reset] [] rfl
  have hwell : (tickAmong (p.port Script.serialLibrary) v).trace.goesWell Script.serialLibrary
      v.library = true := by decide +kernel
  have hends : (tickAmong (p.port Script.serialLibrary) v).trace.endsLoop = false := by
    decide +kernel
  have hbefore : v.port.held = some true ∧ v.courier.record.failures = 1 := by decide +kernel
  have hafter := tick_recovers p _ _ hplans v hstart hwell (Or.inr hends)
  -- the world is worked out by now, and need not be again when the parts are put together
  clear_value v
  exact ⟨hbefore, hafter⟩

/-- A tick beside the loop in which a listener waits for the loop to end leaves the link
unhealthy though all dealings go well, and after a failed write so does a tick in which a
listener halts in more than a fault. -/
theorem tick_fails_interrupted :
    let p : SerialPort := ⟨.text "COM1", .int 9600, .null⟩
    let stopping := unopened ⟨[], .bytes (List.replicate 11 0)⟩
      [⟨⟨"rec", .null⟩, [[.performs (.stop false)]]⟩]
    let exiting := unopened ⟨[("write", [.halts (.fault (.device .serial "lost"))])],
      .bytes (List.replicate 11 0)⟩ [⟨⟨"rec", .null⟩, [[], [.halts (.exit .null)]]⟩]
    (∃ v ∈ tickStarts (p.port Script.serialLibrary) [.start, .poll] stopping,
      let r := tickAmong (p.port Script.serialLibrary) v
      r.trace.goesWell Script.serialLibrary v.library = true
        ∧ r.state.courier.record.healthy = false)
      ∧ ∃ v ∈ tickStarts (p.port Script.serialLibrary) [.poll, .poll] exiting,
        let r := tickAmong (p.port Script.serialLibrary) v
        r.trace.goesWell Script.serialLibrary v.library = true
          ∧ r.state.courier.record.healthy = false := by
  decide +kernel

end World

end AcceptorHost
