import AcceptorHost.Courier.Operation
import AcceptorHost.Proofs.LoopMarks
import AcceptorHost.Proofs.RunLaws

/-!
# Operations on the loop

What a start, a pass and a stop report, by the place of the loop's thread.  While the
thread is at work, whatever happens happens on it: a start and a pass find it alive and
not parked and do nothing, and a stop leaves the stop flag and does not wait.  A loose
passage lets the control state change; a start and a stop follow it wherever the thread
is.
-/

namespace AcceptorHost

namespace Courier

variable {c : Courier}

/-- A wait is refused only by the platform, and only while no stop is asked for. -/
theorem canWait_eq_false :
    c.canWait = false ↔ c.control.stopFlag = false ∧ c.policy.canWait = false :=
  Bool.or_eq_false_iff

theorem canWait_of_asked
    (h : c.control.stopFlag = true) :
    c.canWait = true := by
  rw [canWait, h, Bool.true_or]

/-- Without a stop it is up to the platform. -/
theorem canWait_of_unasked
    (h : c.control.stopFlag = false) :
    c.canWait = c.policy.canWait := by
  rw [canWait, h, Bool.false_or]

end Courier

namespace World

variable {σ τ : Type} {w : World σ τ}

/-- With the thread alive a start does nothing. -/
theorem start_of_alive
    (port : Port σ)
    (hw : w.courier.control.thread.isAlive = true) :
    start port w = ⟨[], .ok (), w⟩ := by
  have halive : (ask (fun c => c.control.thread.isAlive) w).result = .ok true := by
    change Except.ok w.courier.control.thread.isAlive = _
    rw [hw]
  unfold start
  rw [Run.bind_of_ok halive]
  rfl

theorem start_of_running
    (port : Port σ)
    (hw : w.courier.control.thread = .running) :
    start port w = ⟨[], .ok (), w⟩ :=
  start_of_alive port (by rw [hw]; rfl)

/-- A pass finds nothing to do unless the thread is parked. -/
theorem pass_of_not_parked
    (port : Port σ)
    (deliver : Deliver σ τ)
    (hw : w.courier.control.thread ≠ .parked) :
    pass port deliver w = ⟨[], .ok (), w⟩ := by
  obtain ⟨⟨policy, codec, ⟨paused, stopFlag, mailbox, phase, thread⟩, listeners, record⟩,
    line, audience⟩ := w
  cases thread with
  | parked =>
      exact absurd rfl hw
  | _ =>
      rfl

theorem requestStop_of_running
    (port : Port σ)
    (bounded : Bool)
    (hw : w.courier.control.thread = .running) :
    requestStop port bounded w =
      ⟨[.log Level.debug "Stopping courier thread...",
          .log Level.warning "request_stop() called from the courier thread; not waiting"],
        .ok false,
        { w with courier :=
          { w.courier with control := { w.courier.control with stopFlag := true } } }⟩ := by
  obtain ⟨⟨policy, codec, ⟨paused, stopFlag, mailbox, phase, thread⟩, listeners, record⟩,
    line, audience⟩ := w
  cases hw
  rfl

/-- The thread's work that returns a place leaves the thread there. -/
theorem concludeThread_of_ok
    {x : Run (World σ τ) Thread}
    {place : Thread}
    (h : (x w).result = .ok place) :
    concludeThread x w =
      ⟨(x w).trace, .ok (),
        { (x w).state with courier := { (x w).state.courier with control :=
          { (x w).state.courier.control with thread := place } } }⟩ := by
  have hattempt : (Run.attempt x w).result = .ok (.ok place) := by
    change Except.ok (x w).result = _
    rw [h]
  unfold concludeThread
  rw [Run.bind_of_ok hattempt]
  change Report.mk ((x w).trace ++ []) _ _ = _
  rw [List.append_nil]
  rfl

/-- The thread's work that halts is its death. -/
theorem concludeThread_of_error
    {x : Run (World σ τ) Thread}
    {e : Halt}
    (h : (x w).result = .error e) :
    concludeThread x w =
      ⟨(x w).trace ++ [.threadDied e], .ok (),
        { (x w).state with courier := { (x w).state.courier with control :=
          { (x w).state.courier.control with thread := .ended } } }⟩ := by
  have hattempt : (Run.attempt x w).result = .ok (.error e) := by
    change Except.ok (x w).result = _
    rw [h]
  unfold concludeThread
  rw [Run.bind_of_ok hattempt]
  rfl

/-- Whatever comes of the thread's work, whoever lets it run goes on. -/
theorem concludeThread_returns
    (x : Run (World σ τ) Thread)
    (w : World σ τ) :
    (concludeThread x w).result = .ok () := by
  cases hx : (x w).result with
  | ok place =>
      rw [concludeThread_of_ok hx]
  | error e =>
      rw [concludeThread_of_error hx]

/-- A launched loop parks at once if its interval can be shown. -/
theorem launch_of_text
    (port : Port σ)
    {text : String}
    (htext : intervalText w.courier.policy.pollInterval = .ok text) :
    launch port w =
      ⟨[.log Level.info
          ("Courier started on " ++ port.name.display ++ " (poll " ++ text ++ " ms)")],
        .ok .parked,
        { w with courier := { w.courier with control :=
          { w.courier.control with phase := .running } } }⟩ := by
  simp [launch, bind, Run.andThen, enterPhase, control, change, Run.change, ask, Run.look,
    htext, Run.ofExcept, Run.give, Run.log, Run.emit]

/-- One whose interval cannot be shown fails, and has noted that it runs. -/
theorem launch_of_no_text
    (port : Port σ)
    {f : Fault}
    (htext : intervalText w.courier.policy.pollInterval = .error f) :
    launch port w =
      ⟨[], .error (.fault f),
        { w with courier := { w.courier with control :=
          { w.courier.control with phase := .running } } }⟩ := by
  simp [launch, bind, Run.andThen, enterPhase, control, change, Run.change, ask, Run.look,
    htext, Run.ofExcept, Run.fail, Run.halt]

/-- Without a living thread a start launches a new one. -/
theorem start_launches
    (port : Port σ)
    (hw : w.courier.control.thread.isAlive = false) :
    start port w =
      concludeThread (launch port)
        { w with courier := { w.courier with control :=
          { w.courier.control with
            stopFlag := false, phase := .notStarted, thread := .running } } } := by
  obtain ⟨⟨policy, codec, ⟨paused, stopFlag, mailbox, phase, thread⟩, listeners, record⟩,
    line, audience⟩ := w
  change thread.isAlive = false at hw
  cases thread with
  | absent =>
      rfl
  | ended =>
      rfl
  | parked =>
      cases hw
  | running =>
      cases hw

/-- Without a living thread a start parks a new one if the interval can be shown. -/
theorem start_of_idle
    (port : Port σ)
    {text : String}
    (hw : w.courier.control.thread.isAlive = false)
    (htext : intervalText w.courier.policy.pollInterval = .ok text) :
    start port w =
      ⟨[.log Level.info
          ("Courier started on " ++ port.name.display ++ " (poll " ++ text ++ " ms)")],
        .ok (),
        { w with courier := { w.courier with control := { w.courier.control with
          stopFlag := false, phase := .running, thread := .parked } } }⟩ := by
  let v : World σ τ :=
    { w with courier := { w.courier with control :=
      { w.courier.control with stopFlag := false, phase := .notStarted, thread := .running } } }
  have hlaunch := launch_of_text (w := v) port htext
  have hresult : (launch port v).result = .ok .parked := by rw [hlaunch]
  rw [start_launches port hw, concludeThread_of_ok hresult, hlaunch]

/-- A pass lets a parked thread run. -/
theorem pass_of_parked
    (port : Port σ)
    (deliver : Deliver σ τ)
    (hw : w.courier.control.thread = .parked) :
    pass port deliver w =
      concludeThread (advance port deliver)
        { w with courier := { w.courier with control :=
          { w.courier.control with thread := .running } } } := by
  obtain ⟨⟨policy, codec, ⟨paused, stopFlag, mailbox, phase, thread⟩, listeners, record⟩,
    line, audience⟩ := w
  cases hw
  rfl

/-- A step of the loop that returns is that step. -/
theorem guarded_of_ok
    (port : Port σ)
    {x : Run (World σ τ) Unit}
    {w : World σ τ}
    (h : (x w).result = .ok ()) :
    guarded port x w = ⟨(x w).trace, .ok (), (x w).state⟩ := Run.handle_of_ok h

/-- After a step of the loop that halts the port is closed, and nothing follows. -/
theorem guarded_bind_of_error
    {α : Type}
    (port : Port σ)
    {x : Run (World σ τ) Unit}
    {next : Run (World σ τ) α}
    {w : World σ τ}
    {e : Halt}
    (h : (x w).result = .error e) :
    let q := (finish port >>= fun _ => (Run.halt e : Run (World σ τ) α)) (x w).state
    (guarded port x >>= fun _ => next) w = ⟨(x w).trace ++ q.trace, q.result, q.state⟩ := by
  let close (e : Halt) : Run (World σ τ) Unit := finish port >>= fun _ => Run.halt e
  have hwhole : (guarded port x >>= fun _ => next) w = _ :=
    Run.handle_bind_of_error (f := close) h
  have hclose : (close e >>= fun _ => next) = finish port >>= fun _ => Run.halt e :=
    Run.bind_assoc _ _ _
  rwa [hclose] at hwhole

/-- Without a stop a thread parks. -/
theorem concludeThread_parks
    (port : Port σ)
    (hstop : w.courier.control.stopFlag = false) :
    concludeThread (parkOrFinish port) w =
      ⟨[], .ok (), { w with courier := { w.courier with control :=
        { w.courier.control with thread := .parked } } }⟩ := by
  obtain ⟨⟨policy, codec, ⟨paused, stopFlag, mailbox, phase, thread⟩, listeners, record⟩,
    line, audience⟩ := w
  cases hstop
  rfl

/-- After a stop a thread does what ends the loop. -/
theorem parkOrFinish_of_asked
    (port : Port σ)
    (hstop : w.courier.control.stopFlag = true) :
    parkOrFinish port w = (finish port >>= fun _ => Run.give Thread.ended) w := by
  obtain ⟨⟨policy, codec, ⟨paused, stopFlag, mailbox, phase, thread⟩, listeners, record⟩,
    line, audience⟩ := w
  cases hstop
  rfl

/-- The loop's end is reported over a port that can be closed. -/
theorem finish_of_closes
    (port : Port σ)
    (hcloses : (port.disconnect w.port).result = .ok ()) :
    finish port w =
      ⟨(port.disconnect w.port).trace ++ [.log Level.info "Courier stopped"], .ok (),
        { w with
          courier := { w.courier with control := { w.courier.control with phase := .stopped } }
          port := (port.disconnect w.port).state }⟩ := by
  have hclosed : (onPort port.disconnect w).result = .ok () := hcloses
  unfold finish
  rw [Run.bind_of_ok hclosed]
  rfl

/-- After a stop a thread that can close its port reports its end and has ended. -/
theorem concludeThread_ends
    (port : Port σ)
    (hcloses : (port.disconnect w.port).result = .ok ())
    (hstop : w.courier.control.stopFlag = true) :
    concludeThread (parkOrFinish port) w =
      ⟨(port.disconnect w.port).trace ++ [.log Level.info "Courier stopped"], .ok (),
        { w with
          courier := { w.courier with control :=
            { w.courier.control with phase := .stopped, thread := .ended } }
          port := (port.disconnect w.port).state }⟩ := by
  have hfinish := finish_of_closes port hcloses
  have hok : (finish port w).result = .ok () := by rw [hfinish]
  have hwork := parkOrFinish_of_asked port hstop
  have hended := Run.bind_of_ok (f := fun _ => Run.give Thread.ended) hok
  have hresult : (parkOrFinish port w).result = .ok .ended := by
    rw [hwork, hended]
    rfl
  rw [concludeThread_of_ok hresult, hwork, hended, hfinish]
  change Report.mk (((port.disconnect w.port).trace ++ [.log Level.info "Courier stopped"]) ++ [])
    _ _ = _
  rw [List.append_nil]
  rfl

/-- A thread that dies of a halt closes its port first and reports its end too. -/
theorem concludeThread_dies
    (port : Port σ)
    (hcloses : (port.disconnect w.port).result = .ok ())
    (h : Halt) :
    concludeThread (finish port >>= fun _ => Run.halt h) w =
      ⟨(port.disconnect w.port).trace ++ [.log Level.info "Courier stopped", .threadDied h],
        .ok (),
        { w with
          courier := { w.courier with control :=
            { w.courier.control with phase := .stopped, thread := .ended } }
          port := (port.disconnect w.port).state }⟩ := by
  have hfinish := finish_of_closes port hcloses
  have hok : (finish port w).result = .ok () := by rw [hfinish]
  have hdead := Run.bind_of_ok (f := fun _ => (Run.halt h : Run (World σ τ) Thread)) hok
  have hresult : ((finish port >>= fun _ => (Run.halt h : Run (World σ τ) Thread)) w).result =
      .error h := by
    rw [hdead]
    rfl
  rw [concludeThread_of_error hresult, hdead, hfinish]
  change Report.mk ((((port.disconnect w.port).trace ++ [.log Level.info "Courier stopped"]) ++ [])
    ++ [.threadDied h]) _ _ = _
  rw [List.append_nil, List.append_assoc]
  rfl

/-- What a stop returns once there is nothing left to wait for. -/
def reportEnd (bounded : Bool) : Run (World σ τ) Bool := do
  if (← ask fun c => c.control.phase) = .stopped then confirmStopped
  else if bounded then Run.give false
  else Run.fail .neverStops

theorem follows_reportEnd
    {p : Passage (World σ τ)}
    (hlog : Run.Follows p (Run.log Level.debug "Courier thread stopped"))
    (bounded : Bool) :
    Run.Follows p (reportEnd bounded : Run (World σ τ) Bool) :=
  (Run.Follows.look _).bind fun _ =>
    (hlog.bind fun _ => Run.Follows.give _).ite
      ((Run.Follows.give _).ite (Run.Follows.halt _))

/-- A world after a stop was asked for. -/
def stopAsked (w : World σ τ) : World σ τ :=
  { w with courier := { w.courier with control := { w.courier.control with
    stopFlag := true
    phase := if w.courier.control.phase = .running then .stopping
      else w.courier.control.phase } } }

theorem requestStop_of_absent
    (port : Port σ)
    (bounded : Bool)
    (hw : w.courier.control.thread = .absent) :
    requestStop port bounded w =
      ⟨[.log Level.debug "Stopping courier thread..."], .ok true,
        { w with courier := { w.courier with control :=
          { w.courier.control with stopFlag := true, phase := .stopped } } }⟩ := by
  obtain ⟨⟨policy, codec, ⟨paused, stopFlag, mailbox, phase, thread⟩, listeners, record⟩,
    line, audience⟩ := w
  cases hw
  rfl

/-- The end of a loop is known once its phase says so. -/
theorem reportEnd_of_stopped
    (bounded : Bool)
    (hphase : w.courier.control.phase = .stopped) :
    reportEnd bounded w = ⟨[.log Level.debug "Courier thread stopped"], .ok true, w⟩ := by
  have hreport : reportEnd bounded w =
      (if w.courier.control.phase = .stopped then confirmStopped
        else if bounded then Run.give false else Run.fail .neverStops) w := rfl
  rw [hreport, if_pos hphase]
  rfl

theorem requestStop_of_ended
    (port : Port σ)
    (bounded : Bool)
    (hw : w.courier.control.thread = .ended) :
    requestStop port bounded w =
      let r := reportEnd bounded w.stopAsked
      ⟨.log Level.debug "Stopping courier thread..." :: r.trace, r.result, r.state⟩ := by
  obtain ⟨⟨policy, codec, ⟨paused, stopFlag, mailbox, phase, thread⟩, listeners, record⟩,
    line, audience⟩ := w
  cases hw
  cases bounded <;> rfl

theorem requestStop_of_parked_bounded
    (port : Port σ)
    (hw : w.courier.control.thread = .parked) :
    requestStop port true w =
      let r := reportEnd true w.stopAsked
      ⟨.log Level.debug "Stopping courier thread..." :: r.trace, r.result, r.state⟩ := by
  obtain ⟨⟨policy, codec, ⟨paused, stopFlag, mailbox, phase, thread⟩, listeners, record⟩,
    line, audience⟩ := w
  cases hw
  rfl

/-- A stop without a bound lets a parked thread run to its end. -/
theorem requestStop_of_parked
    (port : Port σ)
    (hw : w.courier.control.thread = .parked) :
    requestStop port false w =
      let r := (concludeThread (parkOrFinish port) >>= fun _ => reportEnd false)
        { w.stopAsked with courier := { w.stopAsked.courier with control :=
          { w.stopAsked.courier.control with thread := .running } } }
      ⟨.log Level.debug "Stopping courier thread..." :: r.trace, r.result, r.state⟩ := by
  obtain ⟨⟨policy, codec, ⟨paused, stopFlag, mailbox, phase, thread⟩, listeners, record⟩,
    line, audience⟩ := w
  cases hw
  rfl

/-- If the port can be closed, such a stop returns once the thread has ended. -/
theorem requestStop_ends
    (port : Port σ)
    (hcloses : (port.disconnect w.port).result = .ok ())
    (hw : w.courier.control.thread = .parked) :
    requestStop port false w =
      ⟨.log Level.debug "Stopping courier thread..." :: (port.disconnect w.port).trace
          ++ [.log Level.info "Courier stopped", .log Level.debug "Courier thread stopped"],
        .ok true,
        { w with
          courier := { w.courier with control :=
            { w.courier.control with stopFlag := true, phase := .stopped, thread := .ended } }
          port := (port.disconnect w.port).state }⟩ := by
  let v : World σ τ :=
    { w.stopAsked with courier := { w.stopAsked.courier with control :=
      { w.stopAsked.courier.control with thread := .running } } }
  have hends : concludeThread (parkOrFinish port) v = _ :=
    concludeThread_ends (w := v) port hcloses rfl
  have hok : (concludeThread (parkOrFinish port) v).result = .ok () := by rw [hends]
  rw [requestStop_of_parked port hw, Run.bind_of_ok hok, hends, reportEnd_of_stopped false rfl]
  simp [v, stopAsked]

end World

/-- Along a passage the control state may change, and the log of the loop and a death be noted. -/
structure Passage.Loose
    {σ τ : Type}
    (p : Passage (World σ τ)) :
    Prop where
  log : ∀ level text, (Entry.log level text).isInert = true → Run.Follows p (Run.log level text)
  died : ∀ h, Run.Follows p (Run.emit (.threadDied h))
  control : ∀ f, Run.Follows p (World.control f)

namespace Passage.Loose

variable {σ τ : Type} {p : Passage (World σ τ)} {port : Port σ}

theorem concludeThread
    (h : p.Loose)
    {x : Run (World σ τ) Thread}
    (hx : Run.Follows p x) :
    Run.Follows p (World.concludeThread x) := by
  refine hx.attempt.bind fun ending => ?_
  cases ending with
  | ok place =>
      exact h.control _
  | error halt =>
      exact (h.died halt).bind fun _ => h.control _

theorem start
    (h : p.Loose) :
    Run.Follows p (World.start port) := by
  have hlaunch : Run.Follows p (World.launch port) :=
    (h.control _).bind fun _ => (Run.Follows.look _).bind fun _ =>
      (Run.Follows.ofExcept _).bind fun _ => (h.log _ _ rfl).bind fun _ => Run.Follows.give _
  exact (Run.Follows.look _).bind fun _ => (Run.Follows.give _).ite
    ((h.control _).bind fun _ => h.concludeThread hlaunch)

theorem finish
    (h : p.Loose)
    (hclose : Run.Follows p (World.onPort port.disconnect : Run (World σ τ) Unit)) :
    Run.Follows p (World.finish port : Run (World σ τ) Unit) :=
  hclose.bind fun _ => (h.log _ _ rfl).bind fun _ => h.control _

theorem parkOrFinish
    (h : p.Loose)
    (hclose : Run.Follows p (World.onPort port.disconnect : Run (World σ τ) Unit)) :
    Run.Follows p (World.parkOrFinish port : Run (World σ τ) Thread) :=
  (Run.Follows.look _).bind fun _ =>
    ((h.finish hclose).bind fun _ => Run.Follows.give _).ite (Run.Follows.give _)

/-- A stop closes the port only if the caller waits for it without a bound. -/
theorem requestStop
    (h : p.Loose)
    {bounded : Bool}
    (hclose : bounded = false →
      Run.Follows p (World.onPort port.disconnect : Run (World σ τ) Unit)) :
    Run.Follows p (World.requestStop port bounded) := by
  have hend := World.follows_reportEnd (h.log _ _ rfl) bounded
  have hwait (place : Thread) : Run.Follows p (do
      if bounded = false ∧ place = .parked then do
        World.moveThread .running
        World.concludeThread (World.parkOrFinish port)
      World.reportEnd bounded : Run (World σ τ) Bool) := by
    by_cases hwork : bounded = false ∧ place = .parked
    · rw [if_pos hwork]
      exact (h.control _).bind fun _ =>
        (h.concludeThread (h.parkOrFinish (hclose hwork.1))).bind fun _ => hend
    · rw [if_neg hwork]
      exact hend
  refine (h.control _).bind fun _ => (h.log _ _ rfl).bind fun _ =>
    (Run.Follows.look _).bind fun thread => ?_
  cases thread with
  | absent =>
      exact (h.control _).bind fun _ => Run.Follows.give _
  | running =>
      exact (h.log _ _ (by decide +kernel)).bind fun _ => Run.Follows.give _
  | parked =>
      exact (h.control _).bind fun _ => hwait .parked
  | ended =>
      exact (h.control _).bind fun _ => hwait .ended

end Passage.Loose

end AcceptorHost
