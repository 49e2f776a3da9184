import AcceptorHost.Proofs.Chronicle
import AcceptorHost.Proofs.RunRelations

/-!
# The ticks of operations

A poll is a tick on the caller, and a pass is a tick on the loop's thread if the loop
is neither stopped nor paused; no other operation comes to a tick unless a listener asks
for one.  `tickStart` is the world in which the tick of an operation begins, and
`tickStarts` lists these worlds along a row of operations.  What an operation does after
its tick is its follow-up.
-/

namespace AcceptorHost

/-- An operation comes to a tick, whatever listeners ask for. -/
def Operation.ticks (c : Courier) : Operation → Bool
  | .poll => true
  | .pass => c.control.thread == .parked && !c.control.stopFlag && !c.control.paused
  | _ => false

theorem Operation.ticks_pass
    {c : Courier}
    (h : Operation.pass.ticks c = true) :
    c.control.thread = .parked ∧ c.control.stopFlag = false ∧ c.control.paused = false := by
  simpa [Operation.ticks, and_assoc] using h

namespace Mailbox

/-- The next request is the first one that waits. -/
theorem take_eq_pending
    (m : Mailbox) :
    m.take.1 = m.pending[0]? := by
  obtain ⟨identity, reset⟩ := m
  cases identity <;> cases reset <;> rfl

/-- What is left after a taking are the others. -/
theorem pending_take
    (m : Mailbox) :
    m.take.2.pending = m.pending.tail := by
  obtain ⟨identity, reset⟩ := m
  cases identity <;> cases reset <;> rfl

end Mailbox

namespace World

variable {σ τ : Type}

/-- A world whose loop's thread is put to work. -/
def atWork (w : World σ τ) : World σ τ :=
  { w with courier := { w.courier with control := { w.courier.control with thread := .running } } }

/-- The world in which the tick of an operation begins. -/
def tickStart : Operation → World σ τ → World σ τ
  | .pass, w => w.atWork
  | _, w => w

/-- What an operation does after a tick that has ended. -/
def followUp (port : Port σ) : Operation → Except Halt Unit → Run (World σ τ) Value
  | .pass, .ok _ => do
      concludeThread (waitAndPark port)
      Run.give .null
  | .pass, .error h => do
      concludeThread (finish port >>= fun _ => Run.halt h)
      Run.give .null
  | _, .ok _ => Run.give .null
  | _, .error h => Run.halt h

@[simp] theorem tickStart_audience
    (op : Operation)
    (w : World σ τ) :
    (tickStart op w).audience = w.audience := by
  cases op <;> rfl

@[simp] theorem tickStart_mailbox
    (op : Operation)
    (w : World σ τ) :
    (tickStart op w).courier.control.mailbox = w.courier.control.mailbox := by
  cases op <;> rfl

/-- A world whose next request is taken out of the mailbox. -/
def taken (w : World σ τ) : World σ τ :=
  { w with courier := { w.courier with control :=
    { w.courier.control with mailbox := w.courier.control.mailbox.take.2 } } }

/-- A tick takes what is due before anything else happens, and serves only that. -/
theorem tick_eq
    (port : Port σ)
    (deliver : Deliver σ τ)
    (w : World σ τ) :
    tick port deliver w =
      (exchange port deliver w.courier.control.mailbox.take.1 >>= account deliver) w.taken := by
  have htake : (takeRequest w).result = .ok w.courier.control.mailbox.take.1 := rfl
  exact Run.bind_of_ok htake

theorem concludeThread_after
    {x y : Run (World σ τ) Thread}
    {w v : World σ τ}
    {t : Trace}
    (h : x w = ⟨t ++ (y v).trace, (y v).result, (y v).state⟩) :
    concludeThread x w =
      ⟨t ++ (concludeThread y v).trace, (concludeThread y v).result,
        (concludeThread y v).state⟩ := by
  cases hy : (y v).result with
  | ok place =>
      have hx : (x w).result = .ok place := by rw [h, hy]
      rw [concludeThread_of_ok hx, concludeThread_of_ok hy, h]
  | error e =>
      have hx : (x w).result = .error e := by rw [h, hy]
      rw [concludeThread_of_error hx, concludeThread_of_error hy, h, List.append_assoc]

/-- The loop's thread from a step on: the step, and then what its ending asks for. -/
theorem concludeThread_guarded
    (port : Port σ)
    (x : Run (World σ τ) Unit)
    (next : Run (World σ τ) Thread)
    (w : World σ τ) :
    concludeThread (guarded port x >>= fun _ => next) w =
      (Run.attempt x >>= fun
        | .ok _ => concludeThread next
        | .error h => concludeThread (finish port >>= fun _ => Run.halt h)) w := by
  have hattempt : (Run.attempt x w).result = .ok (x w).result := rfl
  rw [Run.bind_of_ok hattempt]
  cases hresult : (x w).result with
  | ok u =>
      have hguarded := guarded_of_ok port hresult
      have hok : (guarded port x w).result = .ok () := by rw [hguarded]
      have hwhole := Run.bind_of_ok (f := fun _ => next) hok
      rw [hguarded] at hwhole
      exact concludeThread_after hwhole
  | error h =>
      exact concludeThread_after (guarded_bind_of_error port hresult)

/-- A thread that waits before does afterwards what it does without. -/
theorem concludeThread_waits
    (port : Port σ)
    {w : World σ τ}
    (hwaits : w.courier.canWait = true) :
    let r := concludeThread (parkOrFinish port) w
    concludeThread (waitAndPark port) w =
      ⟨.waited w.courier.policy.pollInterval :: r.trace, r.result, r.state⟩ := by
  intro r
  have hlook : (ask Courier.canWait w).result = .ok true := congrArg Except.ok hwaits
  have hwait : waitInterval w = ⟨[.waited w.courier.policy.pollInterval], .ok (), w⟩ := by
    rw [waitInterval, Run.bind_of_ok hlook]
    rfl
  have hattempt : (Run.attempt waitInterval w).result = .ok (.ok ()) := by
    rw [Run.attempt, hwait]
  rw [waitAndPark, concludeThread_guarded, Run.bind_of_ok hattempt, Run.attempt, hwait]
  rfl

/-- One whose wait is refused closes the port and dies. -/
theorem concludeThread_refused
    (port : Port σ)
    {w : World σ τ}
    (hrefused : w.courier.canWait = false) :
    concludeThread (waitAndPark port) w =
      concludeThread (finish port >>= fun _ => Run.halt (.fault .waitTooLong)) w := by
  have hlook : (ask Courier.canWait w).result = .ok false := congrArg Except.ok hrefused
  have hwait : waitInterval w = ⟨[], .error (.fault .waitTooLong), w⟩ := by
    rw [waitInterval, Run.bind_of_ok hlook]
    rfl
  have hattempt : (Run.attempt waitInterval w).result = .ok (.error (.fault .waitTooLong)) := by
    rw [Run.attempt, hwait]
  rw [waitAndPark, concludeThread_guarded, Run.bind_of_ok hattempt, Run.attempt, hwait]
  rfl

/-- A thread that was not asked to stop parks after a wait. -/
theorem concludeThread_waits_on
    (port : Port σ)
    {w : World σ τ}
    (hwaits : w.courier.canWait = true)
    (hstop : w.courier.control.stopFlag = false) :
    concludeThread (waitAndPark port) w =
      ⟨[.waited w.courier.policy.pollInterval], .ok (),
        { w with courier := { w.courier with control :=
          { w.courier.control with thread := .parked } } }⟩ := by
  rw [concludeThread_waits port hwaits, concludeThread_parks port hstop]

/-- A pass that comes to a tick makes it on the loop's thread, which then waits or closes the
port. -/
theorem pass_of_tick
    {port : Port σ}
    {deliver : Deliver σ τ}
    {w : World σ τ}
    (h : Operation.pass.ticks w.courier = true) :
    pass port deliver w =
      (Run.attempt (tick port deliver) >>= fun
        | .ok _ => concludeThread (waitAndPark port)
        | .error cause => concludeThread (finish port >>= fun _ => Run.halt cause)) w.atWork := by
  obtain ⟨hparked, hstop, hpaused⟩ := Operation.ticks_pass h
  have hadvance : advance port deliver w.atWork =
      (guarded port (tick port deliver) >>= fun _ => waitAndPark port) w.atWork := by
    have hbegin : advance port deliver w.atWork =
        (if w.courier.control.stopFlag then parkOrFinish port
          else if w.courier.control.paused then waitAndPark port
          else guarded port (tick port deliver) >>= fun _ => waitAndPark port) w.atWork := rfl
    rw [hbegin, hstop, hpaused]
    rfl
  exact (pass_of_parked port deliver hparked).trans
    ((concludeThread_after (t := []) hadvance).trans
      (concludeThread_guarded port (tick port deliver) (waitAndPark port) w.atWork))

/-- A pass whose tick returns reports the tick and then how its thread goes on. -/
theorem pass_of_returns
    {port : Port σ}
    {deliver : Deliver σ τ}
    {w : World σ τ}
    (hticks : Operation.pass.ticks w.courier = true)
    (hreturns : (tick port deliver w.atWork).result = .ok ())
    {t : Trace}
    {v : World σ τ}
    (hconclude : concludeThread (waitAndPark port) (tick port deliver w.atWork).state =
      ⟨t, .ok (), v⟩) :
    pass port deliver w = ⟨(tick port deliver w.atWork).trace ++ t, .ok (), v⟩ := by
  have hattempt : (Run.attempt (tick port deliver) w.atWork).result = .ok (.ok ()) :=
    congrArg Except.ok hreturns
  let q := tick port deliver w.atWork
  let r := concludeThread (waitAndPark port) q.state
  have hr : r = ⟨t, .ok (), v⟩ := hconclude
  rw [pass_of_tick hticks, Run.bind_of_ok hattempt]
  change Report.mk (q.trace ++ r.trace) r.result r.state = _
  rw [hr]

/-- An operation that comes to a tick makes the tick and follows it up. -/
theorem perform_of_tick
    {port : Port σ}
    {deliver : Deliver σ τ}
    {op : Operation}
    {w : World σ τ}
    (h : op.ticks w.courier = true) :
    perform port deliver op w =
      (Run.attempt (tick port deliver) >>= followUp port op) (tickStart op w) := by
  cases op with
  | poll =>
      change _ = (Run.attempt (tick port deliver) >>= followUp port .poll) w
      have hattempt : (Run.attempt (tick port deliver) w).result =
          .ok (tick port deliver w).result := rfl
      rw [Run.bind_of_ok hattempt]
      change (tick port deliver >>= fun _ => Run.give Value.null) w = Report.mk _ _ _
      cases hresult : (tick port deliver w).result with
      | ok u =>
          rw [Run.bind_of_ok hresult]
          rfl
      | error e =>
          rw [Run.bind_of_error hresult]
          change _ = Report.mk ((tick port deliver w).trace ++ []) _ _
          rw [List.append_nil]
          rfl
  | pass =>
      have hperform :
          perform port deliver .pass w = (pass port deliver >>= fun _ => Run.give Value.null) w :=
        rfl
      rw [hperform, Run.bind_congr (pass_of_tick h), Run.bind_assoc]
      refine congrFun (congrArg (Run.attempt (tick port deliver) >>= ·) (funext fun ending => ?_))
        w.atWork
      cases ending <;> rfl
  | _ =>
      cases h

/-- What a pass does that comes to no tick. -/
def idlePass (port : Port σ) : Run (World σ τ) Unit := do
  if (← ask fun c => c.control.thread) = .parked then do
    moveThread .running
    concludeThread (do
      if ← ask fun c => c.control.stopFlag then parkOrFinish port
      else waitAndPark port)

theorem pass_of_idle
    {port : Port σ}
    {deliver : Deliver σ τ}
    {w : World σ τ}
    (h : Operation.pass.ticks w.courier = false) :
    pass port deliver w = idlePass port w := by
  obtain ⟨⟨policy, codec, ⟨paused, stopFlag, mailbox, phase, thread⟩, listeners, record⟩,
    line, audience⟩ := w
  cases thread with
  | parked =>
      cases stopFlag with
      | true =>
          rfl
      | false =>
          cases paused with
          | true =>
              rfl
          | false =>
              cases h
  | _ =>
      rfl

/-- A parked thread that comes to no tick ends if a stop was asked for, and else waits. -/
theorem pass_of_parked_idle
    {port : Port σ}
    {deliver : Deliver σ τ}
    {w : World σ τ}
    (hparked : w.courier.control.thread = .parked)
    (h : Operation.pass.ticks w.courier = false) :
    pass port deliver w =
      (if w.courier.control.stopFlag then concludeThread (parkOrFinish port)
        else concludeThread (waitAndPark port)) w.atWork := by
  rw [pass_of_idle h]
  obtain ⟨⟨policy, codec, ⟨paused, stopFlag, mailbox, phase, thread⟩, listeners, record⟩,
    line, audience⟩ := w
  cases hparked
  cases stopFlag <;> rfl

/-- A tick among listeners that act. -/
def tickAmong (port : Port σ) : Run (World σ Audience) Unit := fun w =>
  tick port (hear (performNested port w.audience.depth)) w

/-- The worlds in which the ticks of a row of operations begin. -/
def tickStarts (port : Port σ) :
    List Operation → World σ Audience → List (World σ Audience)
  | [], _ => []
  | op :: rest, w =>
      let later := tickStarts port rest (step port op w).state
      if op.ticks w.courier then tickStart op w :: later else later

/-- After some operations the tick of another one begins in the world that they reach. -/
theorem mem_tickStarts
    {port : Port σ}
    {op : Operation}
    (before rest : List Operation)
    {w : World σ Audience}
    (h : op.ticks (reached port before w).courier = true) :
    tickStart op (reached port before w) ∈ tickStarts port (before ++ op :: rest) w := by
  induction before generalizing w with
  | nil =>
      change op.ticks w.courier = true at h
      change tickStart op w ∈ if op.ticks w.courier then _ else _
      rw [if_pos h]
      exact List.mem_cons_self
  | cons first more ih =>
      change _ ∈ if first.ticks w.courier then _ else _
      split
      · exact List.mem_cons_of_mem _ (ih h)
      · exact ih h

/-- An operation that comes to a tick among listeners makes it and follows it up. -/
theorem step_of_tick
    {port : Port σ}
    {op : Operation}
    {w : World σ Audience}
    (h : op.ticks w.courier = true) :
    step port op w =
      (Run.attempt (tickAmong port) >>= followUp port op) (tickStart op w) := by
  have hdepth : w.audience.depth = (tickStart op w).audience.depth := by
    rw [tickStart_audience]
  have htick :
      tick port (hear (performNested port w.audience.depth)) (tickStart op w) =
        tickAmong port (tickStart op w) := by
    rw [hdepth]
    rfl
  exact (perform_of_tick h).trans (Run.bind_congr (Run.attempt_congr htick) _)

end World

namespace Kinship.Rounds

variable {σ τ υ φ : Type} {K : Kinship (World σ τ) (World υ φ)} {port : Port σ} {port' : Port υ}

theorem followUp
    (h : K.Rounds port port')
    (op : Operation)
    (ending : Except Halt Unit) :
    K.kin (World.followUp port op ending) (World.followUp port' op ending) := by
  have hfailed (cause : Halt) :
      K.kin (World.concludeThread (World.finish port >>= fun _ => Run.halt cause))
        (World.concludeThread (World.finish port' >>= fun _ => Run.halt cause)) :=
    h.concludeThread (K.bind h.finish fun _ => K.halt cause)
  cases ending with
  | ok u =>
      cases op with
      | pass =>
          exact K.bind (h.concludeThread h.waitAndPark) fun _ => K.give _
      | _ =>
          exact K.give _
  | error cause =>
      cases op with
      | pass =>
          exact K.bind (hfailed cause) fun _ => K.give _
      | _ =>
          exact K.halt cause

theorem idlePass
    (h : K.Rounds port port') :
    K.kin (World.idlePass port) (World.idlePass port') := by
  have hwork :
      K.kin
        (do
          if ← World.ask fun c => c.control.stopFlag then World.parkOrFinish port
          else World.waitAndPark port)
        (do
          if ← World.ask fun c => c.control.stopFlag then World.parkOrFinish port'
          else World.waitAndPark port') :=
    K.bind (h.look _ fun _ _ _ hcontrol => congrArg Control.stopFlag hcontrol) fun _ =>
      K.ite h.parkOrFinish h.waitAndPark
  exact K.bind (h.look _ fun _ _ _ hcontrol => congrArg Control.thread hcontrol) fun _ =>
    K.ite (K.bind (h.control _ fun _ => rfl) fun _ => h.concludeThread hwork) (K.give ())

end Kinship.Rounds

end AcceptorHost
