import AcceptorHost.Proofs.Agreement
import AcceptorHost.Proofs.LoopLife
import AcceptorHost.Proofs.Translation

/-!
# The loop in lock-step runs

Between operations of a lock-step run over a dependable port no thread is at work, the control
state is in order, and the port is closed once a thread has ended (`World.Orderly`).  A start, a
stop and a pass keep this, for a tick in between returns and leaves the thread where it parks or
ends.  A thread that no stop was asked for ends only where the platform refuses to wait for one
poll interval.  From one operation to the next the marks tell the life that the control state
shows, so they do along a whole run, and nobody is told of an event out of order.
-/

namespace AcceptorHost

namespace World

variable {σ : Type} {port : Port σ}

/-! ## From one parking place to the next -/

/-- Between operations the control state is in order with no thread at work, and once a thread
has ended the port is closed and a stop was asked for, unless the wait was refused. -/
structure Orderly (port : Port σ) (w : World σ Audience) : Prop where
  control : w.courier.control.InOrder
  idle : w.courier.control.thread ≠ .running
  closed : w.courier.control.thread = .ended → port.isOpen w.port = false
  asked : w.courier.control.thread = .ended → w.courier.policy.canWait = true →
    w.courier.control.stopFlag = true
  whole : w.courier.policy.IsWhole
  plans : w.audience.Plans Reaction.isContained

/-- The loop's thread is about to park or to end. -/
structure Landing (w : World σ Audience) : Prop where
  thread : w.courier.control.thread = .running
  phase : w.courier.control.phase = .running
    ∨ w.courier.control.phase = .stopping ∧ w.courier.control.stopFlag = true
  whole : w.courier.policy.IsWhole
  plans : w.audience.Plans Reaction.isContained

theorem landing_of_attended
    {w : World σ Audience}
    (hw : Attended Courier.AtWork Reaction.isContained w) :
    Landing w :=
  ⟨hw.1.thread, Or.inl hw.1.phase, hw.1.whole, hw.2⟩

variable {w : World σ Audience}

theorem Landing.life
    (hw : Landing w) :
    w.courier.control.life = .living w.courier.control.stopFlag :=
  Control.life_of_alive (by rw [hw.thread]; rfl)

/-- A parked thread is put to work. -/
theorem Orderly.landing_atWork
    (hw : Orderly port w)
    (hparked : w.courier.control.thread = .parked) :
    Landing w.atWork ∧ Passage.lively.holds w [] w.atWork := by
  have halive : w.courier.control.thread.isAlive = true := by
    rw [hparked]
    rfl
  have hphase : w.courier.control.phase = .running
      ∨ w.courier.control.phase = .stopping ∧ w.courier.control.stopFlag = true :=
    (hw.control.begun halive).imp id fun h => ⟨h, hw.control.asked h⟩
  have hlanding : Landing w.atWork := ⟨rfl, hphase, hw.whole, hw.plans⟩
  refine ⟨hlanding, lively_of_unmarked rfl rfl ?_ ?_⟩
  · rw [hlanding.life, Control.life_of_alive halive]
    rfl
  · rw [hlanding.life]
    simp

/-- A thread that parks or ends leaves its mark if it ends, and all in order. -/
theorem lively_parkOrFinish
    (hport : port.Dependable)
    (hw : Landing w) :
    let r := concludeThread (parkOrFinish port.recorded) w
    Passage.lively.holds w r.trace r.state ∧ Orderly port r.state := by
  intro r
  cases hstop : w.courier.control.stopFlag with
  | false =>
      have hr : r = _ := concludeThread_parks port.recorded hstop
      have hphase : w.courier.control.phase = .running :=
        hw.phase.resolve_right fun h => by rw [hstop] at h; cases h.2
      rw [hr]
      refine ⟨lively_of_unmarked rfl rfl ?_ ?_,
        ⟨?_, by simp, by simp, by simp, hw.whole, hw.plans⟩⟩
      · rw [hw.life]
        rfl
      · simp [Control.life, Thread.isAlive]
      · rw [Control.inOrder_iff]
        simp [hphase, Thread.isAlive]
  | true =>
      have hr : r = _ := concludeThread_ends port.recorded (hport.closes w.port) hstop
      have hmarks : Trace.loopMarks [.port .disconnect, .log Level.info "Courier stopped"] =
          [.ended] :=
        (Trace.loopMarks_cons_none rfl _).trans
          (Trace.loopMarks_cons_some Entry.loopMark?_stopped [])
      rw [hr]
      refine ⟨lively_of_mark rfl hmarks ?_,
        ⟨?_, by simp, fun _ => hport.closed w.port, fun _ _ => hstop, hw.whole, hw.plans⟩⟩
      · rw [hw.life, hstop]
        rfl
      · rw [Control.inOrder_iff]
        simp [Thread.isAlive]

/-- So does one that waits before; if the wait is refused it ends and dies of that. -/
theorem lively_waitAndPark
    (hport : port.Dependable)
    (hw : Landing w) :
    let r := concludeThread (waitAndPark port.recorded) w
    Passage.lively.holds w r.trace r.state ∧ Orderly port r.state := by
  intro r
  cases hwaits : w.courier.canWait with
  | true =>
      obtain ⟨hholds, horderly⟩ := lively_parkOrFinish hport hw
      have hr : r = _ := concludeThread_waits port.recorded hwaits
      have hwait : Passage.lively.holds w [.waited w.courier.policy.pollInterval] w :=
        lively_of_unmarked rfl rfl rfl (by rw [hw.life]; simp)
      rw [hr]
      exact ⟨Passage.lively.onward hwait hholds, horderly⟩
  | false =>
      obtain ⟨hstop, hlimit⟩ := Courier.canWait_eq_false.mp hwaits
      have hr : r = _ := (concludeThread_refused port.recorded hwaits).trans
        (concludeThread_dies port.recorded (hport.closes w.port) _)
      have hmarks : Trace.loopMarks [.port .disconnect, .log Level.info "Courier stopped",
          .threadDied (.fault .waitTooLong)] = [.ended, .died] :=
        (Trace.loopMarks_cons_none rfl _).trans
          (Trace.loopMarks_cons_some Entry.loopMark?_stopped _)
      rw [hr]
      refine ⟨⟨rfl, ?_, fun hfresh => ?_⟩, ⟨?_, by simp, fun _ => hport.closed w.port,
        fun _ hwaits => ?_, hw.whole, hw.plans⟩⟩
      · refine (congrArg _ hmarks).trans ?_
        rw [hw.life, hstop, hlimit]
        rfl
      · cases hfresh
      · rw [Control.inOrder_iff]
        simp [Thread.isAlive]
      · rw [hlimit] at hwaits
        cases hwaits

/-! ## Operations in lock-step -/

/-- What leaves the thread, the phase, the stop flag, the policy and the port alone keeps order. -/
theorem ordered_change
    {f : Courier → Courier}
    (hthread : ∀ c, (f c).control.thread = c.control.thread)
    (hphase : ∀ c, (f c).control.phase = c.control.phase)
    (hstop : ∀ c, (f c).control.stopFlag = c.control.stopFlag)
    (hpolicy : ∀ c, (f c).policy = c.policy) :
    Run.Follows (Passage.lively.under (Orderly port)) (change f) := by
  intro w hw
  have hlife := Control.life_congr (hthread w.courier) (hphase w.courier) (hstop w.courier)
  have hholds : Passage.lively.holds w [] (change f w).state :=
    ⟨hpolicy _, congrArg some hlife.symm, fun _ => rfl⟩
  refine ⟨hholds, hw.control.congr (hthread _) (hphase _) (hstop _), ?_, fun h => ?_,
    fun h hwaits => ?_, ?_, hw.plans⟩
  · change (f w.courier).control.thread ≠ .running
    rw [hthread]
    exact hw.idle
  · exact hw.closed ((hthread _).symm.trans h)
  · change (f w.courier).policy.canWait = true at hwaits
    rw [hpolicy] at hwaits
    exact (hstop _).trans (hw.asked ((hthread _).symm.trans h) hwaits)
  · change (f w.courier).policy.IsWhole
    rw [hpolicy]
    exact hw.whole

theorem ordered_start :
    Run.Follows (Passage.lively.under (Orderly port)) (start port.recorded) := by
  intro w hw
  cases halive : w.courier.control.thread.isAlive with
  | true =>
      rw [start_of_alive _ halive]
      exact ⟨Passage.lively.stay w, hw⟩
  | false =>
      obtain ⟨text, htext⟩ := hw.whole.shown
      have hmarks := Trace.loopMarks_cons_some (Entry.loopMark?_launch port.name.display text) []
      rw [start_of_idle _ halive htext]
      refine ⟨lively_of_mark rfl hmarks ?_, ?_, by simp, by simp, by simp, hw.whole, hw.plans⟩
      · unfold Control.life
        rw [halive]
        cases w.courier.control.phase <;> rfl
      · rw [Control.inOrder_iff]
        simp [Thread.isAlive]

/-- That a stop is asked for beside the loop's thread leaves its mark. -/
theorem ordered_stopAsked
    {w : World σ Audience}
    (hw : Orderly port w)
    (htouched : w.courier.control.thread ≠ .absent) :
    Passage.lively.holds w [.log Level.debug "Stopping courier thread..."] w.stopAsked
      ∧ Orderly port w.stopAsked := by
  have hmarks := Trace.loopMarks_cons_some Entry.loopMark?_stopping []
  obtain ⟨⟨policy, codec, ⟨paused, stopFlag, mailbox, phase, thread⟩, listeners, record⟩,
    line, audience⟩ := w
  have hcontrol := hw.control
  rw [Control.inOrder_iff] at hcontrol
  refine ⟨lively_of_mark rfl hmarks ?_, ?_, hw.idle, hw.closed, fun _ _ => rfl, hw.whole,
    hw.plans⟩
  · cases thread with
    | absent =>
        exact absurd rfl htouched
    | running =>
        exact absurd rfl hw.idle
    | parked =>
        rfl
    | ended =>
        obtain rfl : phase = .stopped := hw.control.ended rfl
        rfl
  · rw [Control.inOrder_iff]
    cases thread <;> cases phase <;> simp_all [stopAsked, Thread.isAlive]

/-- What a stop reports at its end leaves no mark and touches nothing. -/
theorem reportEnd_unmarked
    (bounded : Bool)
    (w : World σ Audience) :
    (reportEnd bounded w).trace.loopMarks = [] ∧ (reportEnd bounded w).state = w := by
  have hconfirmed := Trace.loopMarks_cons_none Entry.loopMark?_confirmed []
  have hreport : reportEnd bounded w =
      (if w.courier.control.phase = .stopped then confirmStopped
        else if bounded then Run.give false else Run.fail .neverStops) w := rfl
  rw [hreport]
  split
  · exact ⟨hconfirmed, rfl⟩
  · cases bounded <;> exact ⟨rfl, rfl⟩

theorem lively_reportEnd
    (bounded : Bool)
    {w : World σ Audience}
    (hw : Orderly port w)
    (htouched : w.courier.control.life ≠ .fresh) :
    let r := reportEnd bounded w
    Passage.lively.holds w r.trace r.state ∧ Orderly port r.state := by
  intro r
  obtain ⟨hmarks, hstate⟩ := reportEnd_unmarked bounded w
  have hr : r.state = w := hstate
  rw [hr]
  exact ⟨lively_of_unmarked rfl hmarks rfl htouched, hw⟩

/-- Beside the loop's thread a stop leaves its mark, and the thread's if it waits for its end. -/
theorem ordered_requestStop
    (hport : port.Dependable)
    (bounded : Bool) :
    Run.Follows (Passage.lively.under (Orderly port)) (requestStop port.recorded bounded) := by
  intro w hw
  have hreports {v : World σ Audience}
      (hholds : Passage.lively.holds w [.log Level.debug "Stopping courier thread..."] v)
      (hv : Orderly port v) (bounded : Bool) :
      let r := reportEnd bounded v
      Passage.lively.holds w (.log Level.debug "Stopping courier thread..." :: r.trace) r.state
        ∧ Orderly port r.state := by
    obtain ⟨hrest, horderly⟩ := lively_reportEnd bounded hv fun hfresh => by cases hholds.2.2 hfresh
    exact ⟨Passage.lively.onward (t := [_]) hholds hrest, horderly⟩
  cases hthread : w.courier.control.thread with
  | running =>
      exact absurd hthread hw.idle
  | absent =>
      have hmarks := Trace.loopMarks_cons_some Entry.loopMark?_stopping []
      rw [requestStop_of_absent _ bounded hthread]
      refine ⟨lively_of_mark rfl hmarks ?_, ?_, hw.idle, hw.closed, fun _ _ => rfl, hw.whole,
        hw.plans⟩
      · unfold Control.life
        rw [hthread]
        cases w.courier.control.phase <;> rfl
      · rw [Control.inOrder_iff]
        simp [hthread, Thread.isAlive]
  | ended =>
      rw [requestStop_of_ended _ bounded hthread]
      obtain ⟨hasked, horderly⟩ := ordered_stopAsked hw (by rw [hthread]; decide)
      exact hreports hasked horderly bounded
  | parked =>
      obtain ⟨hasked, horderly⟩ := ordered_stopAsked hw (by rw [hthread]; decide)
      cases bounded with
      | true =>
          rw [requestStop_of_parked_bounded _ hthread]
          exact hreports hasked horderly true
      | false =>
          obtain ⟨hlanding, hwork⟩ := horderly.landing_atWork hthread
          obtain ⟨hends, hended⟩ := lively_parkOrFinish hport hlanding
          have htouched := touched_of_lively hends (by rw [hlanding.life]; simp)
          obtain ⟨hrest, hlast⟩ := lively_reportEnd false hended htouched
          rw [requestStop_of_parked _ hthread, Run.bind_of_ok (concludeThread_returns _ _)]
          exact ⟨Passage.lively.onward (t := [_]) hasked
            (Passage.lively.onward (t := []) hwork (Passage.lively.onward hends hrest)), hlast⟩

/-- A pass that comes to a tick begins it in order. -/
theorem Orderly.attended_atWork
    {w : World σ Audience}
    (hw : Orderly port w)
    (hticks : Operation.pass.ticks w.courier = true) :
    Attended Courier.AtWork Reaction.isContained w.atWork := by
  obtain ⟨hparked, hstop, -⟩ := Operation.ticks_pass hticks
  have hphase : w.courier.control.phase = .running := by
    refine (hw.control.begun (by rw [hparked]; rfl)).resolve_right fun hstopping => ?_
    rw [hw.control.asked hstopping] at hstop
    cases hstop
  exact ⟨⟨rfl, hphase, hw.whole⟩, hw.plans⟩

/-- A pass keeps the loop's thread in order, whether it comes to a tick or not. -/
theorem ordered_pass
    (hport : port.Dependable)
    {deliver : Deliver σ Audience}
    (hdeliver : Mild Courier.AtWork Reaction.isContained Passage.lively deliver) :
    Run.Follows (Passage.lively.under (Orderly port)) (perform port.recorded deliver .pass) := by
  intro w hw
  have hgive (x : Run (World σ Audience) Unit) (v : World σ Audience) :
      ((x >>= fun _ => Run.give Value.null) v).trace = (x v).trace
        ∧ ((x >>= fun _ => Run.give Value.null) v).state = (x v).state :=
    Run.bind_silent (fun _ _ => ⟨rfl, rfl⟩) x v
  cases hticks : Operation.pass.ticks w.courier with
  | true =>
      -- A tick in order returns, so the pass goes on to where the thread parks or ends.
      let park : Run (World σ Audience) Unit :=
        concludeThread (waitAndPark port.recorded)
      let v := (tick port.recorded deliver w.atWork).state
      have hbegins := hw.attended_atWork hticks
      obtain ⟨-, hwork⟩ := hw.landing_atWork (Operation.ticks_pass hticks).1
      obtain ⟨htick, hafter⟩ := (permits_working hdeliver.follows).tick w.atWork hbegins
      obtain ⟨hrest, hlast⟩ := lively_waitAndPark hport (landing_of_attended hafter)
      have hreturns := (settled_working hport.yields hdeliver).tick_returns hbegins
      have hattempt : (Run.attempt (tick port.recorded deliver) w.atWork).result =
          .ok (.ok ()) := congrArg Except.ok hreturns
      have hpass : perform port.recorded deliver .pass w =
          ⟨(tick port.recorded deliver w.atWork).trace
              ++ ((park >>= fun _ => Run.give Value.null) v).trace,
            ((park >>= fun _ => Run.give Value.null) v).result,
            ((park >>= fun _ => Run.give Value.null) v).state⟩ :=
        (perform_of_tick hticks).trans (Run.bind_of_ok hattempt)
      rw [hpass, (hgive park v).1, (hgive park v).2]
      exact ⟨Passage.lively.onward (t := []) hwork (Passage.lively.onward htick hrest), hlast⟩
  | false =>
      have hpass : perform port.recorded deliver .pass w =
          (pass port.recorded deliver >>= fun _ => Run.give Value.null) w := rfl
      rw [hpass, (hgive (pass port.recorded deliver) w).1, (hgive (pass port.recorded deliver) w).2]
      by_cases hparked : w.courier.control.thread = .parked
      · obtain ⟨hlanding, hwork⟩ := hw.landing_atWork hparked
        rw [pass_of_parked_idle hparked hticks]
        split
        · obtain ⟨hrest, hlast⟩ := lively_parkOrFinish hport hlanding
          exact ⟨Passage.lively.onward (t := []) hwork hrest, hlast⟩
        · obtain ⟨hrest, hlast⟩ := lively_waitAndPark hport hlanding
          exact ⟨Passage.lively.onward (t := []) hwork hrest, hlast⟩
      · rw [pass_of_not_parked _ deliver hparked]
        exact ⟨Passage.lively.stay w, hw⟩

/-- Whatever is asked for beside ticks and events on the caller, the marks tell the life of the
loop and all stays in order. -/
theorem ordered_perform
    (hport : port.Dependable)
    {deliver : Deliver σ Audience}
    (hdeliver : Mild Courier.AtWork Reaction.isContained Passage.lively deliver)
    {op : Operation}
    (hop : op.isLockStep = true) :
    Run.Follows (Passage.lively.under (Orderly port)) (perform port.recorded deliver op) := by
  have hlisteners (f : Registry Listener → Registry Listener) :
      Run.Follows (Passage.lively.under (Orderly port)) (listeners f) :=
    ordered_change (fun _ => rfl) (fun _ => rfl) (fun _ => rfl) fun _ => rfl
  by_cases hpasses : op = .pass
  · rw [hpasses]
    exact ordered_pass hport hdeliver
  refine Run.Follows.perform (fun f hthread hphase hstop => ?_) ?_
  · exact ordered_change (fun c => hthread c.control) (fun c => hphase c.control)
      (fun c => hstop c.control) fun _ => rfl
  cases op with
  | poll =>
      cases hop
  | dispatch e =>
      cases hop
  | subscribe l =>
      exact hlisteners _
  | unsubscribe l =>
      exact hlisteners _
  | unsubscribeAll =>
      exact hlisteners _
  | start =>
      exact ordered_start
  | pass =>
      exact absurd rfl hpasses
  | stop bounded =>
      exact ordered_requestStop hport bounded
  | _ =>
      trivial

theorem ordered_step
    (hport : port.Dependable)
    {op : Operation}
    (hop : op.isLockStep = true) :
    Run.Follows (Passage.lively.under (Orderly port)) (step port.recorded op) := fun w =>
  ordered_perform hport ((working_bears port).mild w.audience.depth) hop w

/-! ## Along lock-step runs -/

/-- A courier that nobody has used yet is in order if it was made of integers. -/
theorem orderly_create
    {longest : Option Binary64}
    {codec : Codec}
    {ms limit : Int}
    {timeout : Value}
    {unsigned : Bool}
    {w : World σ Audience}
    (hmade : Courier.create longest codec (.int ms) (.int limit) timeout unsigned = .ok w.courier)
    (hplans : w.audience.Plans Reaction.isContained) :
    Orderly port w ∧ w.courier.control.life = .fresh := by
  obtain ⟨x, hshown, hc⟩ := Courier.parts_of_create hmade
  obtain ⟨c, line, audience⟩ := w
  subst hc
  have hcontrol : Control.fresh.InOrder := by decide
  exact ⟨⟨hcontrol, Thread.noConfusion, Thread.noConfusion, Thread.noConfusion,
    ⟨hshown, limit, rfl⟩, hplans⟩, rfl⟩

/-- From an orderly world a lock-step run stays orderly, and its marks tell the life of the loop. -/
theorem ordered_chronicle
    (hport : port.Dependable)
    {ops : List Operation}
    (hops : ∀ op ∈ ops, op.isLockStep = true)
    {w : World σ Audience}
    (hw : Orderly port w) :
    Passage.lively.holds w (chronicle port.recorded ops w) (reached port.recorded ops w)
      ∧ Orderly port (reached port.recorded ops w) :=
  holds_chronicle (fun op hop => ordered_step hport (hops op hop)) w hw

/-- An interval of ten thousand million seconds is accepted, but platforms do not wait so long. -/
example :
    let port := (⟨.text "dev0", .int 9600, .float SerialPort.usualTimeout⟩ : SerialPort).port
      SerialLibrary.ofAnswers
    let made := Courier.create (some Policy.usualLongestWait) Codec.usual (.int (10 ^ 13)) (.int 5)
      .null false
    (made.toOption.map fun c =>
        (chronicle port.recorded [.start, .pass, .stop false] ⟨c, ⟨none, []⟩, []⟩).loopMarks) =
      some [.started, .ended, .died, .stopAsked] := by
  decide +kernel

end World

end AcceptorHost
