import AcceptorHost.Proofs.Lifecycle

/-!
# What lock-step operations report

Between the operations of a lock-step run the loop's thread is parked, has ended, or never was
there.  An operation beside the loop leaves no trace and touches neither the port nor the
thread.  Over a dependable port it is then known what a pass and a stop report: a thread that
was asked to stop closes the port once and ends (`World.ended`), any other one parks
(`World.parked`), and one whose wait the platform refuses closes the port and dies
(`World.stranded`).
-/

namespace AcceptorHost

/-- An operation that neither ticks nor tells nor touches the loop. -/
def Operation.isBeside : Operation → Bool
  | .poll | .dispatch _ | .start | .pass | .stop _ => false
  | _ => true

/-- What may be asked for in a lock-step run is beside the loop, or starts it, lets it pass or
stops it. -/
theorem Operation.cases_of_isLockStep
    {op : Operation}
    (hop : op.isLockStep = true) :
    op.isBeside = true ∨ op = .start ∨ op = .pass ∨ ∃ bounded, op = .stop bounded := by
  cases op with
  | poll =>
      cases hop
  | dispatch e =>
      cases hop
  | start =>
      exact Or.inr (Or.inl rfl)
  | pass =>
      exact Or.inr (Or.inr (Or.inl rfl))
  | stop bounded =>
      exact Or.inr (Or.inr (Or.inr ⟨bounded, rfl⟩))
  | _ =>
      exact Or.inl rfl

/-- In a lock-step run only passes tick. -/
theorem Operation.eq_pass_of_ticks
    {op : Operation}
    (hop : op.isLockStep = true)
    {c : Courier}
    (hticks : op.ticks c = true) :
    op = .pass := by
  cases op with
  | poll =>
      cases hop
  | pass =>
      rfl
  | _ =>
      cases hticks

/-- What an operation itself makes of the mailbox. -/
def Operation.mailed : Operation → Mailbox → Mailbox
  | .request r, m => m.add r
  | .takeRequest, m => m.take.2
  | _, m => m

/-- What an operation beside the loop makes of a courier. -/
def Operation.writes (op : Operation) (c : Courier) : Courier where
  policy := c.policy
  codec := c.codec
  control :=
    { c.control with
      paused := match op with
        | .pause value => value
        | _ => c.control.paused
      mailbox := op.mailed c.control.mailbox }
  listeners := match op with
    | .subscribe l => c.listeners.subscribe l
    | .unsubscribe l => c.listeners.unsubscribe l
    | .unsubscribeAll => Registry.empty
    | _ => c.listeners
  record := c.record

/-- What an operation beside the loop returns. -/
def Operation.answer (op : Operation) (c : Courier) : Value :=
  match op with
  | .takeRequest =>
      match c.control.mailbox.take.1 with
      | some r => .text r.label
      | none => .null
  | .count => .int c.listeners.size
  | _ => .null

/-- What a thread leaves where it parks or, after a stop, where it ends. -/
def Trace.landing (asked : Bool) : Trace :=
  if asked then [.port .disconnect, .log Level.info "Courier stopped"] else []

/-- What a thread leaves from its wait to where it parks or ends; a refused wait is its death. -/
def Trace.resting (c : Courier) : Trace :=
  if c.canWait then .waited c.policy.pollInterval :: landing c.control.stopFlag
  else [.port .disconnect, .log Level.info "Courier stopped", .threadDied (.fault .waitTooLong)]

namespace World

variable {σ : Type} {port : Port σ} {w : World σ Audience}

/-- A world whose loop's thread has parked. -/
def parked (w : World σ Audience) : World σ Audience :=
  { w with courier := { w.courier with control := { w.courier.control with thread := .parked } } }

/-- A world whose loop's thread has ended after a stop. -/
def ended (port : Port σ) (w : World σ Audience) : World σ Audience :=
  { w with
    courier := { w.courier with control :=
      { w.courier.control with stopFlag := true, phase := .stopped, thread := .ended } }
    port := (port.disconnect w.port).state }

/-- The world in which a thread at work parks or ends. -/
def landed (port : Port σ) (w : World σ Audience) : World σ Audience :=
  if w.courier.control.stopFlag then ended port w else parked w

theorem landed_of_asked
    (hstop : w.courier.control.stopFlag = true) :
    landed port w = ended port w := by
  unfold landed
  rw [if_pos hstop]

theorem landed_of_unasked
    (hstop : w.courier.control.stopFlag = false) :
    landed port w = parked w := by
  unfold landed
  rw [hstop]
  rfl

/-- A world whose loop's thread has died of a refused wait. -/
def stranded (port : Port σ) (w : World σ Audience) : World σ Audience :=
  { w with
    courier := { w.courier with control :=
      { w.courier.control with phase := .stopped, thread := .ended } }
    port := (port.disconnect w.port).state }

/-- The world in which a thread at work parks or ends that waits before. -/
def rested (port : Port σ) (w : World σ Audience) : World σ Audience :=
  if w.courier.canWait then landed port w else stranded port w

theorem rested_of_asked
    (hstop : w.courier.control.stopFlag = true) :
    rested port w = ended port w := by
  unfold rested
  rw [if_pos (Courier.canWait_of_asked hstop), landed_of_asked hstop]

/-- Whether a thread that no stop was asked for parks is up to the platform. -/
theorem rested_of_unasked
    (hstop : w.courier.control.stopFlag = false) :
    rested port w = if w.courier.policy.canWait then parked w else stranded port w := by
  unfold rested
  rw [Courier.canWait_of_unasked hstop, landed_of_unasked hstop]

@[simp] theorem rested_thread
    (port : Port σ)
    (w : World σ Audience) :
    (rested port w).courier.control.thread =
      if !w.courier.control.stopFlag && w.courier.policy.canWait then .parked else .ended := by
  cases hstop : w.courier.control.stopFlag with
  | true =>
      rw [rested_of_asked hstop]
      rfl
  | false =>
      rw [rested_of_unasked hstop]
      cases w.courier.policy.canWait <;> rfl

@[simp] theorem rested_mailbox
    (port : Port σ)
    (w : World σ Audience) :
    (rested port w).courier.control.mailbox = w.courier.control.mailbox := by
  unfold rested landed
  split
  · split <;> rfl
  · rfl

/-! ## Where a thread lands -/

/-- A thread at work parks or, after a stop, closes the port and ends. -/
theorem concludeThread_lands
    (hport : port.Dependable)
    (w : World σ Audience) :
    concludeThread (parkOrFinish port.recorded) w =
      ⟨Trace.landing w.courier.control.stopFlag, .ok (), landed port w⟩ := by
  cases hstop : w.courier.control.stopFlag with
  | false =>
      rw [concludeThread_parks port.recorded hstop, landed_of_unasked hstop]
      rfl
  | true =>
      rw [concludeThread_ends port.recorded (hport.closes w.port) hstop, landed_of_asked hstop]
      obtain ⟨⟨policy, codec, ⟨paused, stopFlag, mailbox, phase, thread⟩, listeners, record⟩,
        line, audience⟩ := w
      cases hstop
      rfl

/-- One that waits before does so after its wait, or dies of its refusal. -/
theorem concludeThread_rests
    (hport : port.Dependable)
    (w : World σ Audience) :
    concludeThread (waitAndPark port.recorded) w =
      ⟨Trace.resting w.courier, .ok (), rested port w⟩ := by
  unfold Trace.resting rested
  cases hwaits : w.courier.canWait with
  | true =>
      rw [concludeThread_waits port.recorded hwaits, concludeThread_lands hport]
      rfl
  | false =>
      rw [concludeThread_refused port.recorded hwaits]
      exact concludeThread_dies port.recorded (hport.closes w.port) _

/-! ## Operations beside the loop -/

/-- An operation beside the loop leaves no trace and changes only what callers write. -/
theorem perform_beside
    {τ : Type}
    (port : Port σ)
    (deliver : Deliver σ τ)
    {op : Operation}
    (hop : op.isBeside = true)
    (w : World σ τ) :
    perform port deliver op w =
      ⟨[], .ok (op.answer w.courier), { w with courier := op.writes w.courier }⟩ := by
  cases op with
  | takeRequest =>
      let shown : Option Request → Run (World σ τ) Value
        | some r => Run.give (.text r.label)
        | none => Run.give .null
      have htaken : (takeRequest w).result = .ok w.courier.control.mailbox.take.1 := rfl
      have htake : perform port deliver .takeRequest w = (takeRequest >>= shown) w := rfl
      rw [htake, Run.bind_of_ok htaken]
      unfold Operation.answer
      cases w.courier.control.mailbox.take.1 <;> rfl
  | request r =>
      rfl
  | pause value =>
      rfl
  | subscribe l =>
      rfl
  | unsubscribe l =>
      rfl
  | unsubscribeAll =>
      rfl
  | count =>
      rfl
  | _ =>
      cases hop

theorem step_beside
    (port : Port σ)
    {op : Operation}
    (hop : op.isBeside = true)
    (w : World σ Audience) :
    step port op w =
      ⟨[], .ok (op.answer w.courier), { w with courier := op.writes w.courier }⟩ :=
  perform_beside port _ hop w

/-! ## Starts -/

/-- An operation on the loop reports what it does and the value it returns. -/
theorem step_start_eq
    (port : Port σ)
    (w : World σ Audience) :
    step port .start w =
      ⟨(start port w).trace, (start port w).result.map fun _ => .null, (start port w).state⟩ :=
  Run.bind_give (fun _ => Value.null) (start port) w

theorem step_pass_eq
    (port : Port σ)
    (w : World σ Audience) :
    let r := pass port (hear (performNested port w.audience.depth)) w
    step port .pass w = ⟨r.trace, r.result.map fun _ => .null, r.state⟩ :=
  Run.bind_give (fun _ => Value.null) (pass port _) w

theorem step_stop_eq
    (port : Port σ)
    (bounded : Bool)
    (w : World σ Audience) :
    step port (.stop bounded) w =
      ⟨(requestStop port bounded w).trace, (requestStop port bounded w).result.map .bool,
        (requestStop port bounded w).state⟩ :=
  Run.bind_give Value.bool (requestStop port bounded) w

/-- While a thread lives, a start does nothing. -/
theorem step_start_of_alive
    (port : Port σ)
    (halive : w.courier.control.thread.isAlive = true) :
    step port .start w = ⟨[], .ok .null, w⟩ := by
  rw [step_start_eq, start_of_alive port halive]
  rfl

/-- Otherwise it parks a new thread if the poll interval can be shown. -/
theorem step_start_of_idle
    (port : Port σ)
    {text : String}
    (hidle : w.courier.control.thread.isAlive = false)
    (htext : intervalText w.courier.policy.pollInterval = .ok text) :
    step port .start w =
      ⟨[.log Level.info
          ("Courier started on " ++ port.name.display ++ " (poll " ++ text ++ " ms)")],
        .ok .null,
        { w with courier := { w.courier with control := { w.courier.control with
          stopFlag := false, phase := .running, thread := .parked } } }⟩ := by
  rw [step_start_eq, start_of_idle port hidle htext]
  rfl

/-! ## Passes -/

/-- What a pass of a parked thread reports that comes to no tick. -/
theorem step_pass_of_idle
    (hport : port.Dependable)
    (hparked : w.courier.control.thread = .parked)
    (hticks : Operation.pass.ticks w.courier = false) :
    step port.recorded .pass w =
      ⟨if w.courier.control.stopFlag then Trace.landing true else Trace.resting w.courier,
        .ok .null, rested port w.atWork⟩ := by
  rw [step_pass_eq, pass_of_parked_idle hparked hticks]
  cases hstop : w.courier.control.stopFlag with
  | true =>
      have hasked : w.atWork.courier.control.stopFlag = true := hstop
      rw [if_pos rfl, concludeThread_lands hport, rested_of_asked hasked, landed_of_asked hasked,
        hasked]
      rfl
  | false =>
      rw [if_neg Bool.false_ne_true, concludeThread_rests hport]
      rfl

/-- A pass does nothing unless a thread is parked. -/
theorem step_pass_of_unparked
    (port : Port σ)
    (hparked : w.courier.control.thread ≠ .parked) :
    step port .pass w = ⟨[], .ok .null, w⟩ := by
  rw [step_pass_eq, pass_of_not_parked port _ hparked]
  rfl

/-- The tick of a pass in order returns, and nothing on its way touches what makes it work. -/
theorem Orderly.tickAmong_returns
    (hport : port.Dependable)
    (hw : Orderly port w)
    (hticks : Operation.pass.ticks w.courier = true) :
    (tickAmong port.recorded w.atWork).result = .ok ()
      ∧ Passage.lively.holds w.atWork (tickAmong port.recorded w.atWork).trace
        (tickAmong port.recorded w.atWork).state
      ∧ Attended Courier.AtWork Reaction.isContained (tickAmong port.recorded w.atWork).state := by
  have hbegins := hw.attended_atWork hticks
  have hmild := (working_bears port).mild w.audience.depth
  have hreturns := (settled_working hport.yields hmild).tick_returns hbegins
  obtain ⟨hlively, hafter⟩ := (permits_working hmild.follows).tick w.atWork hbegins
  exact ⟨hreturns, hlively, hafter⟩

/-- A pass whose tick returns reports the tick and then how its thread goes on. -/
theorem step_pass_of_returns
    (port : Port σ)
    (hticks : Operation.pass.ticks w.courier = true)
    (hreturns : (tickAmong port w.atWork).result = .ok ())
    {t : Trace}
    {v : World σ Audience}
    (hconclude : concludeThread (waitAndPark port) (tickAmong port w.atWork).state =
      ⟨t, .ok (), v⟩) :
    step port .pass w = ⟨(tickAmong port w.atWork).trace ++ t, .ok .null, v⟩ := by
  have hpass : pass port (hear (performNested port w.audience.depth)) w =
      ⟨(tickAmong port w.atWork).trace ++ t, .ok (), v⟩ :=
    pass_of_returns hticks hreturns hconclude
  rw [step_pass_eq, hpass]
  rfl

/-- A pass that comes to a tick waits after it and then parks or ends. -/
theorem step_pass_of_tick
    (hport : port.Dependable)
    (hw : Orderly port w)
    (hticks : Operation.pass.ticks w.courier = true) :
    step port.recorded .pass w =
      let q := tickAmong port.recorded w.atWork
      ⟨q.trace ++ Trace.resting q.state.courier, .ok .null, rested port q.state⟩ := by
  obtain ⟨hreturns, -, -⟩ := hw.tickAmong_returns hport hticks
  exact step_pass_of_returns port.recorded hticks hreturns (concludeThread_rests hport _)

/-! ## Stops -/

/-- That a stop is asked for is all that happens unless a thread is parked. -/
theorem step_stop_of_absent
    (port : Port σ)
    (bounded : Bool)
    (habsent : w.courier.control.thread = .absent) :
    step port (.stop bounded) w =
      ⟨[.log Level.debug "Stopping courier thread..."], .ok (.bool true),
        { w with courier := { w.courier with control :=
          { w.courier.control with stopFlag := true, phase := .stopped } } }⟩ := by
  rw [step_stop_eq, requestStop_of_absent port bounded habsent]
  rfl

/-- A stop is told of the end of a thread that has ended. -/
theorem step_stop_of_ended
    (port : Port σ)
    (bounded : Bool)
    (hended : w.courier.control.thread = .ended)
    (hphase : w.courier.control.phase = .stopped) :
    step port (.stop bounded) w =
      ⟨[.log Level.debug "Stopping courier thread...",
          .log Level.debug "Courier thread stopped"], .ok (.bool true), w.stopAsked⟩ := by
  have hphase' : w.stopAsked.courier.control.phase = .stopped := by
    change (if w.courier.control.phase = .running then Phase.stopping
      else w.courier.control.phase) = .stopped
    rw [hphase]
    rfl
  rw [step_stop_eq, requestStop_of_ended port bounded hended, reportEnd_of_stopped bounded hphase']
  rfl

/-- A bounded stop of a parked thread does not wait for it. -/
theorem step_stop_of_parked_bounded
    (port : Port σ)
    (hparked : w.courier.control.thread = .parked)
    (hphase : w.courier.control.phase ≠ .stopped) :
    step port (.stop true) w =
      ⟨[.log Level.debug "Stopping courier thread..."], .ok (.bool false), w.stopAsked⟩ := by
  have hphase' : w.stopAsked.courier.control.phase ≠ .stopped := by
    change (if w.courier.control.phase = .running then Phase.stopping
      else w.courier.control.phase) ≠ .stopped
    split
    · decide
    · exact hphase
  have hreport : reportEnd true w.stopAsked = ⟨[], .ok false, w.stopAsked⟩ := by
    have hopen : reportEnd true w.stopAsked =
        (if w.stopAsked.courier.control.phase = .stopped then confirmStopped
          else Run.give false) w.stopAsked := rfl
    rw [hopen, if_neg hphase']
    rfl
  rw [step_stop_eq, requestStop_of_parked_bounded port hparked, hreport]
  rfl

/-- A stop without a bound lets a parked thread close the port and end. -/
theorem step_stop_of_parked
    (hport : port.Dependable)
    (hparked : w.courier.control.thread = .parked) :
    step port.recorded (.stop false) w =
      ⟨[.log Level.debug "Stopping courier thread...", .port .disconnect,
          .log Level.info "Courier stopped", .log Level.debug "Courier thread stopped"],
        .ok (.bool true), ended port w⟩ := by
  rw [step_stop_eq, requestStop_ends port.recorded (hport.closes w.port) hparked]
  rfl

end World

end AcceptorHost
