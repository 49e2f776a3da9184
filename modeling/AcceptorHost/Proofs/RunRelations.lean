import AcceptorHost.Proofs.LoopLaws

/-!
# Relations between runs

A kinship relates runs over one kind of world to runs over another and is kept when
runs are composed.  A tick, a start and a stop are composed of the same few steps over
every kind of world, so they are kin to themselves over another as soon as these steps
are.
-/

namespace AcceptorHost

/-- An entry records a call on the port or on the serial library. -/
def Entry.isCall : Entry → Bool
  | .port _ | .serial _ => true
  | _ => false

/-- A relation between runs over two kinds of states that is kept when runs are composed. -/
structure Kinship (S T : Type) where
  kin : {α : Type} → Run S α → Run T α → Prop
  give : ∀ {α : Type} (a : α), kin (Run.give a) (Run.give a)
  halt : ∀ {α : Type} (h : Halt), kin (Run.halt h : Run S α) (Run.halt h)
  bind : ∀ {α β : Type} {x : Run S α} {y : Run T α} {f : α → Run S β} {g : α → Run T β},
    kin x y → (∀ a, kin (f a) (g a)) → kin (x >>= f) (y >>= g)
  handle : ∀ {α : Type} {x : Run S α} {y : Run T α} {f : Halt → Run S α} {g : Halt → Run T α},
    kin x y → (∀ h, kin (f h) (g h)) → kin (Run.handle x f) (Run.handle y g)
  attempt : ∀ {α : Type} {x : Run S α} {y : Run T α},
    kin x y → kin (Run.attempt x) (Run.attempt y)

/-- Runs that follow a passage, each of which is kin to every other run. -/
def Passage.kinship
    {S : Type}
    (p : Passage S) :
    Kinship S S where
  kin x _ := Run.Follows p x
  give := Run.Follows.give
  halt := Run.Follows.halt
  bind := Run.Follows.bind
  handle := Run.Follows.handle
  attempt := Run.Follows.attempt

/-- A run whose trace is told in other words. -/
def Run.rendered {S α : Type} (render : Entry → Trace) (x : Run S α) : Run S α := fun s =>
  ⟨(x s).trace.flatMap render, (x s).result, (x s).state⟩

namespace Run

variable {S α β : Type} (render : Entry → Trace) (x : Run S α)

theorem rendered_bind
    (f : α → Run S β) :
    rendered render (x >>= f) = rendered render x >>= fun a => rendered render (f a) := by
  funext s
  cases hr : (x s).result with
  | error h =>
      have hx : (rendered render x s).result = .error h := hr
      rw [bind_of_error hx, rendered, bind_of_error hr]
      rfl
  | ok a =>
      have hx : (rendered render x s).result = .ok a := hr
      rw [bind_of_ok hx, rendered, bind_of_ok hr, List.flatMap_append]
      rfl

theorem rendered_handle
    (f : Halt → Run S α) :
    rendered render (handle x f) = handle (rendered render x) fun h => rendered render (f h) := by
  funext s
  cases hr : (x s).result with
  | ok a =>
      have hx : (rendered render x s).result = .ok a := hr
      rw [handle_of_ok hx, rendered, handle_of_ok hr]
      rfl
  | error h =>
      have hx : (rendered render x s).result = .error h := hr
      rw [handle_of_error hx, rendered, handle_of_error hr, List.flatMap_append]
      rfl

end Run

/-- Runs over one kind of states that are kin to runs over another as these are told in other
words. -/
def Kinship.rendered
    {S T : Type}
    (K : Kinship S T)
    (render : Entry → Trace) :
    Kinship S T where
  kin x y := K.kin x (y.rendered render)
  give := K.give
  halt := K.halt
  bind hx hf := by
    rw [Run.rendered_bind]
    exact K.bind hx hf
  handle hx hf := by
    rw [Run.rendered_handle]
    exact K.handle hx hf
  attempt := K.attempt

namespace Kinship

variable {S T α β : Type} (K : Kinship S T)

theorem ofExcept
    (r : Except Fault α) :
    K.kin (Run.ofExcept r) (Run.ofExcept r) := by
  cases r with
  | ok a =>
      exact K.give a
  | error f =>
      exact K.halt (.fault f)

variable {K}

theorem ite
    {b : Prop}
    [Decidable b]
    {x x' : Run S α}
    {y y' : Run T α}
    (h : K.kin x y)
    (h' : K.kin x' y') :
    K.kin (if b then x else x') (if b then y else y') := by
  split
  · exact h
  · exact h'

theorem dispatch
    {l : Type}
    {label : l → String}
    {deliver : l → Event → Run S Unit}
    {deliver' : l → Event → Run T Unit}
    {e : Event}
    (hdeliver : ∀ a, K.kin (deliver a e) (deliver' a e))
    (hnote : ∀ a, K.kin (Run.emit (.listenerFailed (label a) e))
      (Run.emit (.listenerFailed (label a) e))) :
    ∀ ls : List l, K.kin (Run.dispatch label deliver e ls) (Run.dispatch label deliver' e ls)
  | [] => K.give ()
  | a :: rest => by
      refine K.bind (K.handle (hdeliver a) fun h => ?_) fun _ => dispatch hdeliver hnote rest
      cases h with
      | fault f =>
          exact hnote a
      | exit status =>
          exact K.halt (.exit status)

end Kinship

/-- What a function shows of a courier is the same for couriers with the same policy, codec
and record. -/
def Courier.ShowsDesk {α : Type} (f : Courier → α) : Prop :=
  ∀ c d : Courier, c.policy = d.policy → c.codec = d.codec → c.record = d.record → f c = f d

/-- What a function shows of a courier is the same for couriers with the same policy and control
state. -/
def Courier.ShowsHelm {α : Type} (f : Courier → α) : Prop :=
  ∀ c d : Courier, c.policy = d.policy → c.control = d.control → f c = f d

theorem Courier.canWait_congr
    {c d : Courier}
    (hpolicy : c.policy = d.policy)
    (hcontrol : c.control = d.control) :
    c.canWait = d.canWait := by
  unfold canWait
  rw [hpolicy, hcontrol]

section Tick

variable {σ τ υ φ : Type}

/-- The steps of which a tick is made are kin to themselves. -/
structure Kinship.Ticks
    (K : Kinship (World σ τ) (World υ φ))
    (port : Port σ)
    (deliver : Deliver σ τ)
    (port' : Port υ)
    (deliver' : Deliver υ φ) :
    Prop where
  log : ∀ level text, K.kin (Run.log level text) (Run.log level text)
  slept : ∀ x, K.kin (Run.emit (.slept x)) (Run.emit (.slept x))
  ask : ∀ {α : Type} (f : Courier → α), Courier.ShowsDesk f →
    K.kin (World.ask f) (World.ask f)
  turned : K.kin (World.change fun c => { c with codec := c.codec.turned })
    (World.change fun c => { c with codec := c.codec.turned })
  record : ∀ f, K.kin (World.record f) (World.record f)
  connect : K.kin (World.onPort port.connect) (World.onPort port'.connect)
  disconnect : K.kin (World.onPort port.disconnect) (World.onPort port'.disconnect)
  discard : K.kin (World.onPort port.discard) (World.onPort port'.discard)
  send : ∀ bs, K.kin (World.onPort (port.send bs)) (World.onPort (port'.send bs))
  receive : ∀ n timeout,
    K.kin (World.onPort (port.receive n timeout)) (World.onPort (port'.receive n timeout))
  fire : ∀ e, K.kin (World.fire deliver e) (World.fire deliver' e)

namespace Kinship.Ticks

variable {K : Kinship (World σ τ) (World υ φ)} {port : Port σ} {deliver : Deliver σ τ}
  {port' : Port υ} {deliver' : Deliver υ φ}

theorem fireAll
    (h : K.Ticks port deliver port' deliver') :
    ∀ es : List Event, K.kin (World.fireAll deliver es) (World.fireAll deliver' es)
  | [] => K.give ()
  | e :: rest => K.bind (h.fire e) fun _ => fireAll h rest

theorem command
    (h : K.Ticks port deliver port' deliver')
    {build : Courier → List UInt8}
    (hbuild : Courier.ShowsDesk build) :
    K.kin (World.command build) (World.command build) :=
  K.bind (h.ask build hbuild) fun bytes => K.bind h.turned fun _ => K.give bytes

theorem transmit
    (h : K.Ticks port deliver port' deliver')
    (bytes : List UInt8) :
    K.kin (World.transmit port deliver bytes) (World.transmit port' deliver' bytes) :=
  K.bind (h.fire _) fun _ => h.send bytes

theorem collect
    (h : K.Ticks port deliver port' deliver') :
    K.kin (World.collect port deliver) (World.collect port' deliver') := by
  refine K.bind (h.ask _ fun c d hpolicy _ _ => congrArg Policy.timeout hpolicy) fun timeout => ?_
  refine K.bind (h.receive _ timeout) fun got => ?_
  cases got with
  | none =>
      exact K.halt _
  | some reply =>
      refine K.bind (h.fire _) fun _ => K.ite (K.give reply) ?_
      exact K.bind h.discard fun _ => K.bind (h.log _ _) fun _ => K.give []

theorem pollState
    (h : K.Ticks port deliver port' deliver') :
    K.kin (World.pollState port deliver) (World.pollState port' deliver') := by
  have hbuild : Courier.ShowsDesk fun c => c.codec.normalCommand c.record.creditAction := by
    intro c d hpolicy hcodec hrecord
    simp only [hcodec, hrecord]
  refine K.bind (h.command hbuild) fun bytes => K.bind (h.transmit bytes) fun _ => ?_
  refine K.bind h.collect fun reply => K.ite (K.give ()) ?_
  refine K.bind (h.ask _ fun c d hpolicy hcodec hrecord => ?_) fun packet => ?_
  · exact congrArg (fun codec => Reply.decode codec reply) hcodec
  · exact K.bind (h.record _) fun _ => h.fireAll _

theorem resetAcceptor
    (h : K.Ticks port deliver port' deliver') :
    K.kin (World.resetAcceptor port deliver) (World.resetAcceptor port' deliver') := by
  have hbuild : Courier.ShowsDesk fun c => c.codec.resetCommand :=
    fun c d _ hcodec _ => congrArg Codec.resetCommand hcodec
  refine K.bind (h.log _ _) fun _ => K.bind (h.command hbuild) fun bytes => ?_
  refine K.bind (h.transmit bytes) fun _ => K.bind h.disconnect fun _ => ?_
  exact K.bind (h.slept _) fun _ => K.bind h.connect fun _ => h.log _ _

theorem queryIdentity
    (h : K.Ticks port deliver port' deliver') :
    K.kin (World.queryIdentity port deliver) (World.queryIdentity port' deliver') := by
  have hbuild : Courier.ShowsDesk fun c => c.codec.identityCommand :=
    fun c d _ hcodec _ => congrArg Codec.identityCommand hcodec
  refine K.bind (h.log _ _) fun _ => K.bind (h.command hbuild) fun bytes => ?_
  refine K.bind (h.transmit bytes) fun _ => K.bind h.collect fun reply => ?_
  refine K.ite (h.log _ _) (K.bind (h.ask _ fun c d hpolicy _ _ => ?_) fun unsigned => ?_)
  · exact congrArg Policy.unsignedSerial hpolicy
  · exact K.bind (K.ofExcept _) fun text => K.bind (h.record _) fun _ => h.log _ _

theorem serve
    (h : K.Ticks port deliver port' deliver')
    (request : Option Request) :
    K.kin (World.serve port deliver request) (World.serve port' deliver' request) := by
  cases request with
  | none =>
      exact h.pollState
  | some r =>
      cases r with
      | identity =>
          exact h.queryIdentity
      | reset =>
          exact h.resetAcceptor

theorem recover
    (h : K.Ticks port deliver port' deliver')
    (cause : Halt) :
    K.kin (World.recover port cause) (World.recover port' cause) := by
  cases cause with
  | exit status =>
      exact K.halt _
  | fault f =>
      cases f with
      | linkDown text =>
          exact K.bind (h.log _ _) fun _ => K.bind h.disconnect fun _ => K.give false
      | _ =>
          exact K.bind (h.log _ _) fun _ => K.give false

/-- An exchange is kin to itself if the opening of the port is. -/
theorem exchange
    (h : K.Ticks port deliver port' deliver')
    (hopen : K.kin (World.ensureOpen port) (World.ensureOpen port'))
    (request : Option Request) :
    K.kin (World.exchange port deliver request) (World.exchange port' deliver' request) :=
  K.handle (K.bind hopen fun _ => K.bind (h.serve request) fun _ => K.give true) h.recover

theorem account
    (h : K.Ticks port deliver port' deliver')
    (completed : Bool) :
    K.kin (World.account deliver completed) (World.account deliver' completed) := by
  refine K.bind (h.record _) fun _ => K.ite (K.give ()) ?_
  refine K.bind (h.ask _ fun c d _ _ hrecord => congrArg Record.failures hrecord) fun count => ?_
  refine K.bind (h.ask _ fun c d hpolicy _ _ => congrArg Policy.retryLimit hpolicy) fun limit => ?_
  refine K.bind (K.ofExcept _) fun reached => K.ite ?_ (K.give ())
  exact K.bind (h.log _ _) fun _ => h.fire _

/-- A tick is kin to itself if the taking of a request is, too. -/
theorem tick
    (h : K.Ticks port deliver port' deliver')
    (htake : K.kin World.takeRequest World.takeRequest)
    (hopen : K.kin (World.ensureOpen port) (World.ensureOpen port')) :
    K.kin (World.tick port deliver) (World.tick port' deliver') :=
  K.bind htake fun request => K.bind (h.exchange hopen request) h.account

end Kinship.Ticks

end Tick

section Loop

variable {σ τ υ φ : Type}

/-- The steps of which a start and a stop are made are kin to themselves. -/
structure Kinship.Rounds
    (K : Kinship (World σ τ) (World υ φ))
    (port : Port σ)
    (port' : Port υ) :
    Prop where
  name_eq : port.name = port'.name
  log : ∀ level text, K.kin (Run.log level text) (Run.log level text)
  died : ∀ h, K.kin (Run.emit (.threadDied h)) (Run.emit (.threadDied h))
  waited : ∀ x, K.kin (Run.emit (.waited x)) (Run.emit (.waited x))
  look : ∀ {α : Type} (f : Courier → α), Courier.ShowsHelm f →
    K.kin (World.ask f) (World.ask f)
  control : ∀ f : Control → Control, (∀ c, (f c).mailbox = c.mailbox) →
    K.kin (World.control f) (World.control f)
  disconnect : K.kin (World.onPort port.disconnect) (World.onPort port'.disconnect)

/-- So they are where everything that a courier shows is the same. -/
structure Kinship.Loops
    (K : Kinship (World σ τ) (World υ φ))
    (port : Port σ)
    (port' : Port υ) :
    Prop where
  name_eq : port.name = port'.name
  log : ∀ level text, K.kin (Run.log level text) (Run.log level text)
  died : ∀ h, K.kin (Run.emit (.threadDied h)) (Run.emit (.threadDied h))
  waited : ∀ x, K.kin (Run.emit (.waited x)) (Run.emit (.waited x))
  look : ∀ {α : Type} (f : Courier → α), K.kin (World.ask f) (World.ask f)
  control : ∀ f : Control → Control, (∀ c, (f c).mailbox = c.mailbox) →
    K.kin (World.control f) (World.control f)
  disconnect : K.kin (World.onPort port.disconnect) (World.onPort port'.disconnect)

theorem Kinship.Loops.rounds
    {K : Kinship (World σ τ) (World υ φ)}
    {port : Port σ}
    {port' : Port υ}
    (h : K.Loops port port') :
    K.Rounds port port' :=
  ⟨h.name_eq, h.log, h.died, h.waited, fun f _ => h.look f, h.control, h.disconnect⟩

namespace Kinship.Rounds

variable {K : Kinship (World σ τ) (World υ φ)} {port : Port σ} {port' : Port υ}

theorem concludeThread
    (h : K.Rounds port port')
    {x : Run (World σ τ) Thread}
    {y : Run (World υ φ) Thread}
    (hx : K.kin x y) :
    K.kin (World.concludeThread x) (World.concludeThread y) := by
  refine K.bind (K.attempt hx) fun ending => ?_
  cases ending with
  | ok place =>
      exact h.control _ fun _ => rfl
  | error halt =>
      exact K.bind (h.died halt) fun _ => h.control _ fun _ => rfl

theorem finish
    (h : K.Rounds port port') :
    K.kin (World.finish port) (World.finish port') :=
  K.bind h.disconnect fun _ => K.bind (h.log _ _) fun _ => h.control _ fun _ => rfl

theorem guarded
    (h : K.Rounds port port')
    {x : Run (World σ τ) Unit}
    {y : Run (World υ φ) Unit}
    (hx : K.kin x y) :
    K.kin (World.guarded port x) (World.guarded port' y) :=
  K.handle hx fun halt => K.bind h.finish fun _ => K.halt halt

theorem waitInterval
    (h : K.Rounds port port') :
    K.kin World.waitInterval World.waitInterval :=
  K.bind (h.look _ fun _ _ => Courier.canWait_congr) fun _ =>
    K.ite
      (K.bind (h.look _ fun _ _ hpolicy _ => congrArg Policy.pollInterval hpolicy) fun x =>
        h.waited x)
      (K.halt _)

theorem parkOrFinish
    (h : K.Rounds port port') :
    K.kin (World.parkOrFinish port) (World.parkOrFinish port') :=
  K.bind (h.look _ fun _ _ _ hcontrol => congrArg Control.stopFlag hcontrol) fun _ =>
    K.ite (K.bind h.finish fun _ => K.give Thread.ended) (K.give Thread.parked)

theorem waitAndPark
    (h : K.Rounds port port') :
    K.kin (World.waitAndPark port) (World.waitAndPark port') :=
  K.bind (h.guarded h.waitInterval) fun _ => h.parkOrFinish

theorem start
    (h : K.Rounds port port') :
    K.kin (World.start port) (World.start port') := by
  have hlaunch : K.kin (World.launch port) (World.launch port') := by
    unfold World.launch
    rw [h.name_eq]
    refine K.bind (h.control _ fun _ => rfl) fun _ => ?_
    refine K.bind (h.look _ fun _ _ hpolicy _ => congrArg Policy.pollInterval hpolicy) fun _ => ?_
    exact K.bind (K.ofExcept _) fun text => K.bind (h.log _ _) fun _ => K.give _
  refine K.bind (h.look _ fun _ _ _ hcontrol => ?_) fun _ => K.ite (K.give ())
    (K.bind (h.control _ fun _ => rfl) fun _ => h.concludeThread hlaunch)
  exact congrArg (fun c : Control => c.thread.isAlive) hcontrol

theorem requestStop
    (h : K.Rounds port port')
    (bounded : Bool) :
    K.kin (World.requestStop port bounded) (World.requestStop port' bounded) := by
  have hend : K.kin (World.reportEnd bounded) (World.reportEnd bounded) :=
    K.bind (h.look _ fun _ _ _ hcontrol => congrArg Control.phase hcontrol) fun _ =>
      K.ite (K.bind (h.log _ _) fun _ => K.give true) (K.ite (K.give false) (K.halt _))
  have hwait (place : Thread) :
      K.kin
        (do
          if bounded = false ∧ place = .parked then do
            World.moveThread .running
            World.concludeThread (World.parkOrFinish port)
          World.reportEnd bounded)
        (do
          if bounded = false ∧ place = .parked then do
            World.moveThread .running
            World.concludeThread (World.parkOrFinish port')
          World.reportEnd bounded) := by
    by_cases hwork : bounded = false ∧ place = .parked
    · rw [if_pos hwork, if_pos hwork]
      exact K.bind (h.control _ fun _ => rfl) fun _ =>
        K.bind (h.concludeThread h.parkOrFinish) fun _ => hend
    · rw [if_neg hwork, if_neg hwork]
      exact hend
  refine K.bind (h.control _ fun _ => rfl) fun _ => K.bind (h.log _ _) fun _ =>
    K.bind (h.look _ fun _ _ _ hcontrol => congrArg Control.thread hcontrol) fun thread => ?_
  cases thread with
  | absent =>
      exact K.bind (h.control _ fun _ => rfl) fun _ => K.give true
  | running =>
      exact K.bind (h.log _ _) fun _ => K.give false
  | parked =>
      exact K.bind (h.control _ fun _ => rfl) fun _ => hwait .parked
  | ended =>
      exact K.bind (h.control _ fun _ => rfl) fun _ => hwait .ended

end Kinship.Rounds

end Loop

section Operation

variable {σ τ υ φ : Type}

/-- The steps of which operations are made are kin to themselves, but the count of listeners. -/
structure Kinship.Sides
    (K : Kinship (World σ τ) (World υ φ))
    (port : Port σ)
    (deliver : Deliver σ τ)
    (port' : Port υ)
    (deliver' : Deliver υ φ) :
    Prop where
  ticks : K.Ticks port deliver port' deliver'
  rounds : K.Rounds port port'
  opening : K.kin (World.ensureOpen port) (World.ensureOpen port')
  mailbox : ∀ f : Mailbox → Mailbox,
    K.kin (World.control fun c => { c with mailbox := f c.mailbox })
      (World.control fun c => { c with mailbox := f c.mailbox })
  listeners : ∀ f, K.kin (World.listeners f) (World.listeners f)

namespace Kinship.Sides

variable {K : Kinship (World σ τ) (World υ φ)} {port : Port σ} {deliver : Deliver σ τ}
  {port' : Port υ} {deliver' : Deliver υ φ}

theorem takeRequest
    (h : K.Sides port deliver port' deliver') :
    K.kin World.takeRequest World.takeRequest := by
  refine K.bind (h.rounds.look _ fun _ _ _ hcontrol => ?_) fun taken =>
    K.bind (h.mailbox fun _ => taken.2) fun _ => K.give taken.1
  exact congrArg (fun c : Control => c.mailbox.take) hcontrol

theorem tick
    (h : K.Sides port deliver port' deliver') :
    K.kin (World.tick port deliver) (World.tick port' deliver') :=
  h.ticks.tick h.takeRequest h.opening

theorem pass
    (h : K.Sides port deliver port' deliver') :
    K.kin (World.pass port deliver) (World.pass port' deliver') := by
  have hadvance : K.kin (World.advance port deliver) (World.advance port' deliver') :=
    K.bind (h.rounds.look _ fun _ _ _ hcontrol => hcontrol) fun now =>
      K.ite h.rounds.parkOrFinish
        (K.ite h.rounds.waitAndPark
          (K.bind (h.rounds.guarded h.tick) fun _ => h.rounds.waitAndPark))
  exact K.bind (h.rounds.look _ fun _ _ _ hcontrol => congrArg Control.thread hcontrol) fun _ =>
    K.ite (K.bind (h.rounds.control _ fun _ => rfl) fun _ => h.rounds.concludeThread hadvance)
      (K.give ())

/-- An operation is kin to itself if all its steps are. -/
theorem perform
    (h : K.Sides port deliver port' deliver')
    {op : Operation}
    (hcount : op = .count → K.kin (World.ask fun c => c.listeners.size)
      (World.ask fun c => c.listeners.size)) :
    K.kin (World.perform port deliver op) (World.perform port' deliver' op) := by
  cases op with
  | poll =>
      exact K.bind h.tick fun _ => K.give _
  | request r =>
      have hadd : K.kin (World.request r) (World.request r) := h.mailbox fun m => m.add r
      exact K.bind hadd fun _ => K.give _
  | takeRequest =>
      refine K.bind h.takeRequest fun taken => ?_
      cases taken with
      | none =>
          exact K.give _
      | some r =>
          exact K.give _
  | pause value =>
      have hpause : K.kin (World.setPaused value) (World.setPaused value) :=
        h.rounds.control _ fun _ => rfl
      exact K.bind hpause fun _ => K.give _
  | subscribe l =>
      exact K.bind (h.listeners _) fun _ => K.give _
  | unsubscribe l =>
      exact K.bind (h.listeners _) fun _ => K.give _
  | unsubscribeAll =>
      exact K.bind (h.listeners _) fun _ => K.give _
  | dispatch e =>
      exact K.bind (h.ticks.fire e) fun _ => K.give _
  | count =>
      exact K.bind (hcount rfl) fun _ => K.give _
  | start =>
      exact K.bind h.rounds.start fun _ => K.give _
  | pass =>
      exact K.bind h.pass fun _ => K.give _
  | stop bounded =>
      exact K.bind (h.rounds.requestStop bounded) fun stopped => K.give _

end Kinship.Sides

/-- The steps of which operations are made are kin to themselves. -/
structure Kinship.Whole
    (K : Kinship (World σ τ) (World υ φ))
    (port : Port σ)
    (deliver : Deliver σ τ)
    (port' : Port υ)
    (deliver' : Deliver υ φ) :
    Prop where
  ticks : K.Ticks port deliver port' deliver'
  loops : K.Loops port port'
  opening : K.kin (World.ensureOpen port) (World.ensureOpen port')
  mailbox : ∀ f : Mailbox → Mailbox,
    K.kin (World.control fun c => { c with mailbox := f c.mailbox })
      (World.control fun c => { c with mailbox := f c.mailbox })
  listeners : ∀ f, K.kin (World.listeners f) (World.listeners f)

namespace Kinship.Whole

variable {K : Kinship (World σ τ) (World υ φ)} {port : Port σ} {deliver : Deliver σ τ}
  {port' : Port υ} {deliver' : Deliver υ φ}

theorem sides
    (h : K.Whole port deliver port' deliver') :
    K.Sides port deliver port' deliver' :=
  ⟨h.ticks, h.loops.rounds, h.opening, h.mailbox, h.listeners⟩

theorem tick
    (h : K.Whole port deliver port' deliver') :
    K.kin (World.tick port deliver) (World.tick port' deliver') :=
  h.sides.tick

/-- An operation is kin to itself if all steps of operations are. -/
theorem perform
    (h : K.Whole port deliver port' deliver')
    (op : Operation) :
    K.kin (World.perform port deliver op) (World.perform port' deliver' op) :=
  h.sides.perform fun _ => h.loops.look _

end Kinship.Whole

/-- A passage along which any entry but a call may be left and the courier change as it likes
is followed by the steps of operations if it is by the calls on the port and by deliveries. -/
theorem Passage.whole
    {p : Passage (World σ τ)}
    {port : Port σ}
    {deliver : Deliver σ τ}
    (hemit : ∀ e : Entry, e.isCall = false → Run.Follows p (Run.emit e))
    (hchange : ∀ f, Run.Follows p (World.change f))
    (hconnect : Run.Follows p (World.onPort port.connect))
    (hdisconnect : Run.Follows p (World.onPort port.disconnect))
    (hdiscard : Run.Follows p (World.onPort port.discard))
    (hsend : ∀ bs, Run.Follows p (World.onPort (port.send bs)))
    (hreceive : ∀ n timeout, Run.Follows p (World.onPort (port.receive n timeout)))
    (hdeliver : ∀ l e, Run.Follows p (deliver l e)) :
    p.kinship.Whole port deliver port deliver where
  ticks :=
    { log := fun _ _ => hemit _ rfl
      slept := fun _ => hemit _ rfl
      ask := fun _ _ => Run.Follows.look _
      turned := hchange _
      record := fun _ => hchange _
      connect := hconnect
      disconnect := hdisconnect
      discard := hdiscard
      send := hsend
      receive := hreceive
      fire := fun e => (Run.Follows.look _).bind fun ls =>
        Run.Follows.dispatch (fun l => hdeliver l e) (fun _ => hemit _ rfl) ls }
  loops :=
    { name_eq := rfl
      log := fun _ _ => hemit _ rfl
      died := fun _ => hemit _ rfl
      waited := fun _ => hemit _ rfl
      look := fun _ => Run.Follows.look _
      control := fun _ _ => hchange _
      disconnect := hdisconnect }
  opening := Run.Follows.bind (Run.Follows.look _) fun _ => (Run.Follows.give _).ite hconnect
  mailbox _ := hchange _
  listeners _ := hchange _

end Operation

end AcceptorHost
