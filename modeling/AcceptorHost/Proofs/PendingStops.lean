import AcceptorHost.Proofs.LockStep

/-!
# Stops that are pending

A stop that is asked for beside the loop's thread shows in the phase until the thread has
ended.  On the loop's thread a stop leaves the stop flag and nothing else: whatever listeners
ask for there, they are told of events where the phase says that the loop is running, and so it
is when the tick ends.  Most often the thread then stops before anybody else looks; but if its
port cannot be closed it is dead, and the phase says for good that the loop is running.
-/

namespace AcceptorHost

namespace Control

/-- If a thread lives that was asked to stop, the phase says that it is stopping. -/
def ShowsStop (c : Control) : Prop :=
  c.thread.isAlive = true → c.stopFlag = true → c.phase = .stopping

/-- A stop was asked for, and the phase says that the loop is running. -/
def HidesStop (c : Control) : Prop := c.stopFlag = true ∧ c.phase = .running

/-- The loop's thread is at work, and the phase says that the loop is running. -/
def Underway (c : Control) : Prop := c.thread = .running ∧ c.phase = .running

instance : DecidablePred Underway := fun c =>
  inferInstanceAs (Decidable (c.thread = .running ∧ c.phase = .running))

instance : DecidablePred ShowsStop := fun c =>
  inferInstanceAs (Decidable (c.thread.isAlive = true → c.stopFlag = true → c.phase = .stopping))

/-- On a thread at work a stop shows only if none was asked for. -/
theorem Underway.showsStop_iff
    {c : Control}
    (hc : c.Underway) :
    c.ShowsStop ↔ c.stopFlag = false := by
  obtain ⟨hthread, hphase⟩ := hc
  have halive : c.thread.isAlive = true := by
    rw [hthread]
    rfl
  constructor
  · intro hshows
    refine Bool.eq_false_iff.mpr fun hasked => ?_
    have hstopping := hshows halive hasked
    rw [hphase] at hstopping
    cases hstopping
  · intro hunasked _ hasked
    rw [hunasked] at hasked
    cases hasked

/-- Between operations no thread is at work, and while one is parked the phase tells whether it
was asked to stop. -/
structure AtRest (c : Control) : Prop where
  idle : c.thread ≠ .running
  unbegun : c.thread = .absent → c.phase ≠ .running
  living : c.thread = .parked → c.phase = if c.stopFlag then .stopping else .running

namespace AtRest

variable {c d : Control}

theorem congr
    (h : c.AtRest)
    (hthread : d.thread = c.thread)
    (hphase : d.phase = c.phase)
    (hstop : d.stopFlag = c.stopFlag) :
    d.AtRest where
  idle := hthread ▸ h.idle
  unbegun := by
    rw [hthread, hphase]
    exact h.unbegun
  living := by
    rw [hthread, hphase, hstop]
    exact h.living

theorem of_ended
    (hended : c.thread = .ended) :
    c.AtRest where
  idle := by
    rw [hended]
    decide
  unbegun habsent := by
    rw [hended] at habsent
    cases habsent
  living hparked := by
    rw [hended] at hparked
    cases hparked

/-- At rest a stop shows while a thread lives. -/
theorem showsStop
    (h : c.AtRest) :
    c.ShowsStop := by
  intro halive hasked
  have hparked : c.thread = .parked := by
    have hidle := h.idle
    cases hthread : c.thread with
    | parked =>
        rfl
    | running =>
        exact absurd hthread hidle
    | _ =>
        rw [hthread] at halive
        cases halive
  rw [h.living hparked, if_pos hasked]

/-- At rest a stop is hidden only where the thread has ended. -/
theorem ended_of_hidesStop
    (h : c.AtRest)
    (hhides : c.HidesStop) :
    c.thread = .ended := by
  obtain ⟨hasked, hrunning⟩ := hhides
  cases hthread : c.thread with
  | absent =>
      exact absurd hrunning (h.unbegun hthread)
  | parked =>
      have hstopping := h.living hthread
      rw [if_pos hasked, hrunning] at hstopping
      cases hstopping
  | running =>
      exact absurd hthread h.idle
  | ended =>
      rfl

end AtRest

/-- A stop of a parked thread that shows is not hidden. -/
theorem stopping_of_parked
    {c : Control}
    (hshows : c.ShowsStop)
    (hended : c.HidesStop → c.thread = .ended)
    (hparked : c.thread = .parked)
    (hasked : c.stopFlag = true) :
    c.phase = .stopping ∧ ¬ c.HidesStop := by
  refine ⟨hshows (by rw [hparked]; rfl) hasked, fun hhides => ?_⟩
  have hthread := hended hhides
  rw [hparked] at hthread
  cases hthread

/-- The control state of a thread that ends with a try to close the port. -/
def closedBy (closing : Except Halt Unit) (c : Control) : Control :=
  { c with
    phase := match closing with
      | .ok _ => .stopped
      | .error _ => c.phase
    thread := .ended }

theorem closedBy_atRest
    (closing : Except Halt Unit)
    (c : Control) :
    (c.closedBy closing).AtRest := .of_ended rfl

/-- The phase says that the loop is running only if it did before and the port was not closed. -/
theorem closedBy_hidesStop_iff
    (closing : Except Halt Unit)
    (c : Control) :
    (c.closedBy closing).HidesStop ↔ c.HidesStop ∧ ∃ h, closing = .error h := by
  cases closing with
  | ok u =>
      simp [closedBy, HidesStop]
  | error h =>
      simp [closedBy, HidesStop]

/-- The control state that a thread leaves after its wait, or after its refusal. -/
def restedBy (waits : Bool) (closing : Except Halt Unit) (c : Control) : Control :=
  if c.stopFlag || !waits then c.closedBy closing else { c with thread := .parked }

/-- The control state that a thread leaves after a tick that ended in one way, where a wait is
made or refused and a try to close the port would end in another. -/
def leftBy (ending : Except Halt Unit) (waits : Bool) (closing : Except Halt Unit) (c : Control) :
    Control :=
  match ending with
  | .ok _ => c.restedBy waits closing
  | .error _ => c.closedBy closing

/-- A wait hides no stop. -/
theorem hidesStop_of_restedBy
    {waits : Bool}
    {closing : Except Halt Unit}
    {c : Control}
    (h : (c.restedBy waits closing).HidesStop) :
    c.HidesStop := by
  unfold restedBy at h
  split at h
  · exact ((closedBy_hidesStop_iff closing c).mp h).1
  · exact h

theorem restedBy_atRest
    (waits : Bool)
    (closing : Except Halt Unit)
    {c : Control}
    (hphase : c.stopFlag = false → c.phase = .running) :
    (c.restedBy waits closing).AtRest := by
  unfold restedBy
  split
  · exact closedBy_atRest closing c
  · rename_i hgoes
    have hstop : c.stopFlag = false := (Bool.or_eq_false_iff.mp (Bool.eq_false_iff.mpr hgoes)).1
    refine ⟨by simp, by simp, fun _ => ?_⟩
    exact (hphase hstop).trans (by simp [hstop])

/-- After a tick a stop is hidden only if one was asked for and the port was not closed. -/
theorem Underway.leftBy_rests
    {c : Control}
    (hc : c.Underway)
    (ending : Except Halt Unit)
    (waits : Bool)
    (closing : Except Halt Unit) :
    (c.leftBy ending waits closing).AtRest ∧
      ((c.leftBy ending waits closing).HidesStop ↔
        c.stopFlag = true ∧ ∃ h, closing = .error h) := by
  have hclosed : (c.closedBy closing).HidesStop ↔ c.stopFlag = true ∧ ∃ h, closing = .error h := by
    rw [closedBy_hidesStop_iff]
    exact and_congr_left fun _ => and_iff_left hc.2
  cases ending with
  | error h =>
      exact ⟨closedBy_atRest closing c, hclosed⟩
  | ok u =>
      refine ⟨restedBy_atRest waits closing fun _ => hc.2, ?_⟩
      by_cases hstop : c.stopFlag = true
      · have hleft : c.leftBy (.ok u) waits closing = c.closedBy closing :=
          if_pos (by rw [hstop, Bool.true_or])
        rw [hleft]
        exact hclosed
      · exact ⟨fun h => absurd (hidesStop_of_restedBy h).1 hstop, fun h => absurd h.1 hstop⟩

end Control

/-! ## On the loop's thread -/

/-- The passage that every run follows. -/
def Passage.free {S : Type} : Passage S where
  holds _ _ _ := True
  stay _ := trivial
  onward _ _ := trivial

/-- A run on the loop's thread under any listeners leaves the thread at work and the phase. -/
abbrev Passage.underway
    {σ : Type} :
    Passage (World σ Audience) :=
  free.amid (fun c => c.control.Underway) fun _ => true

namespace World

variable {σ : Type} {port : Port σ}

theorem attended_of_underway
    {w : World σ Audience}
    (hw : w.courier.control.Underway) :
    Attended (fun c => c.control.Underway) (fun _ => true) w :=
  ⟨hw, fun _ _ _ _ _ _ => rfl⟩

theorem underway_emit
    (e : Entry) :
    Run.Follows .underway (Run.emit e : Run (World σ Audience) Unit) := fun _ hw =>
  ⟨trivial, hw⟩

theorem underway_change
    {f : Courier → Courier}
    (hthread : ∀ c, (f c).control.thread = c.control.thread)
    (hphase : ∀ c, (f c).control.phase = c.control.phase) :
    Run.Follows .underway (change f : Run (World σ Audience) Unit) := fun _ hw =>
  ⟨trivial, ⟨(hthread _).trans hw.1.1, (hphase _).trans hw.1.2⟩, hw.2⟩

theorem underway_onPort
    {α : Type}
    (x : Run σ α) :
    Run.Follows .underway (onPort x : Run (World σ Audience) α) := fun _ hw => ⟨trivial, hw⟩

/-- A tick may happen on the loop's thread if its listeners may be told there. -/
theorem permits_underway
    {deliver : Deliver σ Audience}
    (hdeliver : ∀ l e, Run.Follows .underway (deliver l e)) :
    Passage.Permits .underway port deliver where
  log _ _ _ := underway_emit _
  failed _ _ := underway_emit _
  slept _ := underway_emit _
  mailbox _ := underway_change (fun _ => rfl) fun _ => rfl
  turned := underway_change (fun _ => rfl) fun _ => rfl
  record _ := underway_change (fun _ => rfl) fun _ => rfl
  connect := underway_onPort _
  disconnect := underway_onPort _
  discard := underway_onPort _
  send _ := underway_onPort _
  receive _ _ := underway_onPort _
  delivered := hdeliver

variable (port) in
/-- Whatever listeners ask for on the loop's thread, it stays at work and the phase stays. -/
theorem underway_bears :
    Passage.free.Bears (fun c => c.control.Underway) (fun _ => true) port where
  emit e _ _ := underway_emit e
  unaudited _ _ := trivial
  perform := by
    intro deliver hdeliver op _
    have hpermits : Passage.Permits .underway port deliver := permits_underway hdeliver.follows
    refine Passage.perform_of_running (fun w hw => hw.1.1) (fun _ _ => underway_emit _)
      (fun f hthread hphase => ?_) (fun f => underway_change (fun _ => rfl) fun _ => rfl)
      hpermits.fire fun _ => hpermits.tick
    exact underway_change (fun c => hthread c.control) fun c => hphase c.control

/-- A tick on the loop's thread ends with the thread at work and the phase as it was. -/
theorem underway_tickAmong
    {w : World σ Audience}
    (hw : w.courier.control.Underway) :
    (tickAmong port w).state.courier.control.Underway :=
  ((permits_underway ((underway_bears port).mild w.audience.depth).follows).tick w
    (attended_of_underway hw)).2.1

/-! ## Where the loop's thread ends -/

/-- After the thread's work the control state is what the work left, with the thread's place. -/
theorem concludeThread_control
    (x : Run (World σ Audience) Thread)
    (w : World σ Audience) :
    (concludeThread x w).state.courier.control =
      { (x w).state.courier.control with
        thread := match (x w).result with
          | .ok place => place
          | .error _ => .ended } := by
  cases hx : (x w).result with
  | ok place =>
      rw [concludeThread_of_ok hx]
  | error h =>
      rw [concludeThread_of_error hx]

/-- The loop's end is a try to close the port, whatever follows it. -/
theorem control_finish
    (port : Port σ)
    {next : Run (World σ Audience) Thread}
    (hstate : ∀ w, (next w).state = w)
    (hplace : ∀ w place, (next w).result = .ok place → place = .ended)
    (w : World σ Audience) :
    (concludeThread (finish port >>= fun _ => next) w).state.courier.control =
      w.courier.control.closedBy (port.disconnect w.port).result := by
  have hcourier : (onPort port.disconnect w : Report (World σ Audience) Unit).state.courier =
      w.courier := rfl
  rw [concludeThread_control]
  cases hclosed : (port.disconnect w.port).result with
  | error h =>
      have hfails : (onPort port.disconnect w : Report (World σ Audience) Unit).result =
          .error h := hclosed
      have hfinish : (finish port w : Report (World σ Audience) Unit) = _ :=
        Run.bind_of_error hfails
      have herror : (finish port w : Report (World σ Audience) Unit).result = .error h := by
        rw [hfinish]
      rw [Run.bind_of_error herror, hfinish]
      rfl
  | ok u =>
      have hcloses : (onPort port.disconnect w : Report (World σ Audience) Unit).result =
          .ok u := hclosed
      have hfinish : (finish port w : Report (World σ Audience) Unit) = _ :=
        Run.bind_of_ok hcloses
      have hok : (finish port w : Report (World σ Audience) Unit).result = .ok () := by
        rw [hfinish]
        rfl
      rw [Run.bind_of_ok hok]
      change { (next (finish port w).state).state.courier.control with
        thread := match (next (finish port w).state).result with
          | .ok place => place
          | .error _ => Thread.ended } = _
      rw [hstate, hfinish]
      cases hnext : (next _).result with
      | ok place =>
          rw [hplace _ _ hnext]
          rfl
      | error h =>
          rfl

/-- A thread parks unless it was asked to stop. -/
theorem control_parkOrFinish
    (port : Port σ)
    (w : World σ Audience) :
    (concludeThread (parkOrFinish port) w).state.courier.control =
      if w.courier.control.stopFlag then
        w.courier.control.closedBy (port.disconnect w.port).result
      else { w.courier.control with thread := .parked } := by
  cases hstop : w.courier.control.stopFlag with
  | false =>
      rw [concludeThread_parks port hstop]
      rfl
  | true =>
      have hconclude : concludeThread (parkOrFinish port) w =
          concludeThread (finish port >>= fun _ => Run.give Thread.ended) w :=
        concludeThread_after (t := []) (parkOrFinish_of_asked port hstop)
      rw [hconclude, control_finish port (fun _ => rfl) fun _ place hok => by cases hok; rfl]
      rfl

/-- So does one that waits before, unless its wait is refused. -/
theorem control_waitAndPark
    (port : Port σ)
    (w : World σ Audience) :
    (concludeThread (waitAndPark port) w).state.courier.control =
      w.courier.control.restedBy w.courier.policy.canWait (port.disconnect w.port).result := by
  unfold Control.restedBy
  cases hwaits : w.courier.canWait with
  | true =>
      have hends : (w.courier.control.stopFlag || !w.courier.policy.canWait) =
          w.courier.control.stopFlag := by
        unfold Courier.canWait at hwaits
        cases hlimit : w.courier.policy.canWait <;> simp_all
      rw [concludeThread_waits port hwaits, hends]
      exact control_parkOrFinish port w
  | false =>
      obtain ⟨hstop, hrefused⟩ := Courier.canWait_eq_false.mp hwaits
      rw [concludeThread_refused port hwaits, hrefused, Bool.not_false, Bool.or_true, if_pos rfl]
      exact control_finish port (fun _ => rfl) (fun _ _ hok => by cases hok) w

/-- A pass that comes to a tick leaves what the tick left, with the thread parked or ended. -/
theorem control_pass_of_tick
    {w : World σ Audience}
    (hticks : Operation.pass.ticks w.courier = true) :
    let q := tickAmong port w.atWork
    (step port .pass w).state.courier.control =
      q.state.courier.control.leftBy q.result q.state.courier.policy.canWait
        (port.disconnect q.state.port).result := by
  intro q
  have hattempt : (Run.attempt (tickAmong port) w.atWork).result = .ok q.result := rfl
  have hstep : step port .pass w =
      (Run.attempt (tickAmong port) >>= followUp port .pass) w.atWork := step_of_tick hticks
  have hgive (x : Run (World σ Audience) Unit) (v : World σ Audience) :
      ((x >>= fun _ => Run.give Value.null) v).state = (x v).state :=
    (Run.bind_silent (fun _ _ => ⟨rfl, rfl⟩) x v).2
  rw [hstep, Run.bind_of_ok hattempt]
  change (followUp port .pass q.result q.state).state.courier.control = _
  cases q.result with
  | ok u =>
      change ((concludeThread _ >>= fun _ => Run.give Value.null) q.state).state.courier.control = _
      rw [hgive, control_waitAndPark]
      rfl
  | error h =>
      change ((concludeThread _ >>= fun _ => Run.give Value.null) q.state).state.courier.control = _
      rw [hgive, control_finish port (fun _ => rfl) fun _ _ hok => by cases hok]
      rfl

/-! ## Between operations -/

/-- A pass lets a listener ask for a stop, and the port cannot be closed. -/
def LeavesHidden (port : Port σ) (w : World σ Audience) : Prop :=
  Operation.pass.ticks w.courier = true ∧
    let q := tickAmong port w.atWork
    q.state.courier.control.stopFlag = true ∧ ∃ h, (port.disconnect q.state.port).result = .error h

/-- A start leaves no stop that is hidden. -/
theorem start_rests
    (port : Port σ)
    {w : World σ Audience}
    (hw : w.courier.control.AtRest) :
    let c := (step port .start w).state.courier.control
    c.AtRest ∧ ¬ c.HidesStop := by
  intro c
  have hc : c = (start port w).state.courier.control :=
    congrArg (fun r => r.state.courier.control) (step_start_eq port w)
  rw [hc]
  cases halive : w.courier.control.thread.isAlive with
  | true =>
      rw [start_of_alive port halive]
      refine ⟨hw, fun hhides => ?_⟩
      rw [hw.ended_of_hidesStop hhides] at halive
      cases halive
  | false =>
      let v : World σ Audience :=
        { w with courier := { w.courier with control :=
          { w.courier.control with
            stopFlag := false, phase := .notStarted, thread := .running } } }
      rw [start_launches port halive, concludeThread_control]
      cases htext : intervalText v.courier.policy.pollInterval with
      | ok text =>
          rw [launch_of_text port htext]
          refine ⟨⟨by simp, by simp, fun _ => rfl⟩, ?_⟩
          rintro ⟨hasked, -⟩
          cases hasked
      | error f =>
          rw [launch_of_no_text port htext]
          refine ⟨.of_ended rfl, ?_⟩
          rintro ⟨hasked, -⟩
          cases hasked

/-- That a stop is asked for beside the loop's thread shows. -/
theorem stopAsked_phase
    (w : World σ Audience) :
    w.stopAsked.courier.control.phase ≠ .running := by
  change (if w.courier.control.phase = .running then Phase.stopping
    else w.courier.control.phase) ≠ .running
  split
  · decide
  · assumption

/-- So does a stop, whether it waits or not. -/
theorem stop_rests
    (port : Port σ)
    (bounded : Bool)
    {w : World σ Audience}
    (hw : w.courier.control.AtRest) :
    let c := (step port (.stop bounded) w).state.courier.control
    c.AtRest ∧ ¬ c.HidesStop := by
  intro c
  have hc : c = (requestStop port bounded w).state.courier.control :=
    congrArg (fun r => r.state.courier.control) (step_stop_eq port bounded w)
  have hreported (v : World σ Audience) : (reportEnd bounded v).state = v :=
    (reportEnd_unmarked bounded v).2
  have hshown : ¬ w.stopAsked.courier.control.HidesStop := fun h => stopAsked_phase w h.2
  rw [hc]
  cases hthread : w.courier.control.thread with
  | running =>
      exact absurd hthread hw.idle
  | absent =>
      rw [requestStop_of_absent port bounded hthread]
      refine ⟨⟨hw.idle, by simp, fun hparked => ?_⟩, ?_⟩
      · change w.courier.control.thread = .parked at hparked
        rw [hthread] at hparked
        cases hparked
      · rintro ⟨-, hrunning⟩
        cases hrunning
  | ended =>
      rw [requestStop_of_ended port bounded hthread]
      change (reportEnd bounded w.stopAsked).state.courier.control.AtRest ∧
        ¬ (reportEnd bounded w.stopAsked).state.courier.control.HidesStop
      rw [hreported]
      exact ⟨.of_ended hthread, hshown⟩
  | parked =>
      have hliving := hw.living hthread
      cases bounded with
      | true =>
          rw [requestStop_of_parked_bounded port hthread]
          change (reportEnd true w.stopAsked).state.courier.control.AtRest ∧
            ¬ (reportEnd true w.stopAsked).state.courier.control.HidesStop
          rw [hreported]
          refine ⟨⟨hw.idle, fun habsent => ?_, fun _ => ?_⟩, hshown⟩
          · rw [show w.stopAsked.courier.control.thread = .parked from hthread] at habsent
            cases habsent
          · change (if w.courier.control.phase = .running then Phase.stopping
              else w.courier.control.phase) = .stopping
            rw [hliving]
            cases w.courier.control.stopFlag <;> rfl
      | false =>
          let v : World σ Audience :=
            { w.stopAsked with courier := { w.stopAsked.courier with control :=
              { w.stopAsked.courier.control with thread := .running } } }
          have hends : (concludeThread (parkOrFinish port) v).state.courier.control =
              v.courier.control.closedBy (port.disconnect v.port).result :=
            (control_parkOrFinish port v).trans (if_pos rfl)
          rw [requestStop_of_parked port hthread,
            Run.bind_of_ok (concludeThread_returns (parkOrFinish port) v)]
          let u := (concludeThread (parkOrFinish port) v).state
          change (reportEnd false u).state.courier.control.AtRest
            ∧ ¬ (reportEnd false u).state.courier.control.HidesStop
          rw [hreported, hends]
          refine ⟨Control.closedBy_atRest _ _, fun h => hshown ?_⟩
          exact ((Control.closedBy_hidesStop_iff _ _).mp h).1

/-- A pass that comes to no tick leaves the control as the wait or the end of its thread does. -/
theorem control_pass_of_idle
    (port : Port σ)
    {w : World σ Audience}
    (hparked : w.courier.control.thread = .parked)
    (hticks : Operation.pass.ticks w.courier = false) :
    (step port .pass w).state.courier.control =
      w.atWork.courier.control.restedBy w.courier.policy.canWait (port.disconnect w.port).result := by
  have hstep := congrArg (fun r => r.state.courier.control) (step_pass_eq port w)
  refine hstep.trans ?_
  change (pass port _ w).state.courier.control = _
  rw [pass_of_parked_idle hparked hticks]
  cases hstop : w.courier.control.stopFlag with
  | true =>
      have hasked : w.atWork.courier.control.stopFlag = true := hstop
      unfold Control.restedBy
      rw [if_pos rfl, control_parkOrFinish, hasked]
      rfl
  | false =>
      exact control_waitAndPark port w.atWork

/-- A pass leaves a stop that is hidden only if one was before, or if it is asked for in its
tick and the port cannot be closed then. -/
theorem pass_rests
    (port : Port σ)
    {w : World σ Audience}
    (hw : w.courier.control.AtRest) :
    let c := (step port .pass w).state.courier.control
    c.AtRest ∧ (c.HidesStop ↔ w.courier.control.HidesStop ∨ LeavesHidden port w) := by
  intro c
  by_cases hparked : w.courier.control.thread = .parked
  swap
  · have hc : c = w.courier.control :=
      congrArg (fun r => r.state.courier.control) (step_pass_of_unparked port hparked)
    rw [hc]
    refine ⟨hw, Or.inl, ?_⟩
    rintro (hhides | ⟨hticks, -⟩)
    · exact hhides
    · exact absurd (Operation.ticks_pass hticks).1 hparked
  have hliving := hw.living hparked
  have hshown : ¬ w.courier.control.HidesStop := by
    intro hhides
    have hended := hw.ended_of_hidesStop hhides
    rw [hparked] at hended
    cases hended
  cases hticks : Operation.pass.ticks w.courier with
  | false =>
      have hpass : c = _ := control_pass_of_idle port hparked hticks
      rw [hpass]
      refine ⟨Control.restedBy_atRest _ _ fun hstop => ?_,
        fun h => absurd (Control.hidesStop_of_restedBy h) hshown, ?_⟩
      · rw [show w.courier.control.stopFlag = false from hstop] at hliving
        exact hliving
      · rintro (hhides | ⟨hno, -⟩)
        · exact absurd hhides hshown
        · rw [hticks] at hno
          cases hno
  | true =>
      obtain ⟨-, hunasked, -⟩ := Operation.ticks_pass hticks
      rw [hunasked] at hliving
      have hunderway : (tickAmong port w.atWork).state.courier.control.Underway :=
        underway_tickAmong ⟨rfl, hliving⟩
      have hc : c = _ := control_pass_of_tick hticks
      obtain ⟨hrests, hhides⟩ := hunderway.leftBy_rests (tickAmong port w.atWork).result
        (tickAmong port w.atWork).state.courier.policy.canWait
        (port.disconnect (tickAmong port w.atWork).state.port).result
      rw [hc]
      refine ⟨hrests, hhides.trans ?_⟩
      rw [or_iff_right hshown]
      exact (and_iff_right hticks).symm

/-- What an operation of a lock-step run leaves of a stop that is hidden. -/
theorem step_rests
    (port : Port σ)
    {op : Operation}
    (hop : op.isLockStep = true)
    {w : World σ Audience}
    (hw : w.courier.control.AtRest) :
    let c := (step port op w).state.courier.control
    c.AtRest ∧
      (c.HidesStop ↔
        (w.courier.control.HidesStop ∧ op ≠ .start ∧ ∀ bounded, op ≠ .stop bounded) ∨
          op = .pass ∧ LeavesHidden port w) := by
  intro c
  rcases Operation.cases_of_isLockStep hop with hbeside | rfl | rfl | ⟨bounded, rfl⟩
  · have hc : c = (op.writes w.courier).control :=
      congrArg (fun r => r.state.courier.control) (step_beside port hbeside w)
    have hspares : op ≠ .start ∧ ∀ bounded, op ≠ .stop bounded := by
      refine ⟨?_, fun bounded => ?_⟩ <;> rintro rfl <;> cases hbeside
    have hpass : op ≠ .pass := by
      rintro rfl
      cases hbeside
    rw [hc]
    refine ⟨hw.congr rfl rfl rfl, fun h => .inl ⟨h, hspares⟩, ?_⟩
    rintro (⟨hhides, -⟩ | ⟨rfl, -⟩)
    · exact hhides
    · exact absurd rfl hpass
  · obtain ⟨hrests, hshown⟩ := start_rests port hw
    refine ⟨hrests, fun h => absurd h hshown, ?_⟩
    rintro (⟨-, hstart, -⟩ | ⟨hpass, -⟩)
    · exact absurd rfl hstart
    · cases hpass
  · obtain ⟨hrests, hhides⟩ := pass_rests port hw
    refine ⟨hrests, hhides.trans (or_congr ?_ (and_iff_right rfl).symm)⟩
    exact (and_iff_left ⟨by simp, by simp⟩).symm
  · obtain ⟨hrests, hshown⟩ := stop_rests port bounded hw
    refine ⟨hrests, fun h => absurd h hshown, ?_⟩
    rintro (⟨-, -, hstop⟩ | ⟨hpass, -⟩)
    · exact absurd rfl (hstop bounded)
    · cases hpass

/-! ## Along lock-step runs -/

theorem rests_reached
    (port : Port σ) :
    ∀ {ops : List Operation}, (∀ op ∈ ops, op.isLockStep = true) →
      ∀ {w : World σ Audience}, w.courier.control.AtRest →
        (reached port ops w).courier.control.AtRest
  | [], _, _, hw => hw
  | op :: _, hops, _, hw =>
      rests_reached port (fun o ho => hops o (List.mem_cons_of_mem op ho))
        (step_rests port (hops op List.mem_cons_self) hw).1

/-- A tick of a lock-step run begins on the loop's thread, and nobody has asked for a stop. -/
theorem underway_tickStarts
    (port : Port σ) :
    ∀ {ops : List Operation}, (∀ op ∈ ops, op.isLockStep = true) →
      ∀ {w : World σ Audience}, w.courier.control.AtRest →
        ∀ u ∈ tickStarts port ops w, u.courier.control.Underway
  | [], _, _, _, _, hu => by cases hu
  | op :: rest, hops, w, hw, u, hu => by
      have hlater := underway_tickStarts port (fun o ho => hops o (List.mem_cons_of_mem op ho))
        (step_rests port (hops op List.mem_cons_self) hw).1 u
      change u ∈ if op.ticks w.courier then _ else _ at hu
      split at hu
      · rename_i hticks
        obtain rfl := Operation.eq_pass_of_ticks (hops op List.mem_cons_self) hticks
        obtain ⟨hparked, hunasked, -⟩ := Operation.ticks_pass hticks
        rcases List.mem_cons.mp hu with rfl | hu
        · have hliving := hw.living hparked
          rw [hunasked] at hliving
          exact ⟨rfl, hliving⟩
        · exact hlater hu
      · exact hlater hu

/-- After a row of operations a stop is hidden exactly if one of its passes left it so and nobody
has started or stopped the loop since. -/
theorem hidesStop_reached_iff
    (port : Port σ)
    {ops : List Operation}
    (hops : ∀ op ∈ ops, op.isLockStep = true)
    {w : World σ Audience}
    (hw : w.courier.control.AtRest)
    (hshown : ¬ w.courier.control.HidesStop) :
    (reached port ops w).courier.control.HidesStop ↔
      ∃ before after, ops = before ++ .pass :: after ∧ LeavesHidden port (reached port before w) ∧
        ∀ op ∈ after, op ≠ .start ∧ ∀ bounded, op ≠ .stop bounded := by
  induction ops using List.reverseRecOn with
  | nil =>
      refine ⟨fun h => absurd h hshown, ?_⟩
      rintro ⟨before, after, hsplit, -⟩
      simp at hsplit
  | append_singleton ops op ih =>
      have hearlier : ∀ o ∈ ops, o.isLockStep = true := fun o ho => hops o (by simp [ho])
      obtain ⟨-, hstep⟩ := step_rests port (hops op (by simp)) (rests_reached port hearlier hw)
      rw [reached_append]
      refine hstep.trans ?_
      rw [ih hearlier]
      constructor
      · rintro (⟨⟨before, after, rfl, hleaves, hspared⟩, hop⟩ | ⟨rfl, hleaves⟩)
        · refine ⟨before, after ++ [op], by simp, hleaves, fun o ho => ?_⟩
          rcases List.mem_append.mp ho with ho | ho
          · exact hspared o ho
          · rw [List.mem_singleton.mp ho]
            exact hop
        · exact ⟨ops, [], rfl, hleaves, by simp⟩
      · rintro ⟨before, after, hsplit, hleaves, hspared⟩
        rcases List.eq_nil_or_concat after with rfl | ⟨earlier, last, rfl⟩
        · obtain ⟨rfl, hlast⟩ := List.append_inj' hsplit rfl
          exact .inr ⟨by simpa using hlast, hleaves⟩
        · have hwhole : ops ++ [op] = (before ++ .pass :: earlier) ++ [last] := by
            rw [hsplit]
            simp
          obtain ⟨rfl, hlast⟩ := List.append_inj' hwhole rfl
          obtain rfl : op = last := by simpa using hlast
          exact .inl ⟨⟨before, earlier, rfl, hleaves, fun o ho => hspared o (by simp [ho])⟩,
            hspared op (by simp)⟩

/-- In a lock-step run listeners are told on the loop's thread, where the phase says that the
loop is running. -/
theorem stepsGuarded_underway
    (port : Port σ)
    (other : Deliver σ Audience) :
    ∀ {ops : List Operation}, (∀ op ∈ ops, op.isLockStep = true) →
      ∀ {w : World σ Audience}, w.courier.control.AtRest →
        stepsGuarded Control.Underway other port ops w = steps port ops w
  | [], _, _, _ => rfl
  | op :: rest, hops, w, hw => by
      have hop := hops op List.mem_cons_self
      have hbegins (hticks : op.ticks w.courier = true) :
          Attended (fun c => c.control.Underway) (fun _ => true) (tickStart op w) := by
        refine attended_of_underway (underway_tickStarts port hops hw _ ?_)
        exact mem_tickStarts [] rest hticks
      have hstep : stepGuarded Control.Underway other port op w = step port op w :=
        (underway_bears port).stepGuarded_eq (fun _ h => h.1)
          (fun hmild => permits_underway hmild.follows) (fun _ h => h) other hop hbegins
      have hrest := stepsGuarded_underway port other
        (fun o ho => hops o (List.mem_cons_of_mem _ ho)) (step_rests port hop hw).1
      change stepGuarded Control.Underway other port op w ::
          stepsGuarded Control.Underway other port rest
            (stepGuarded Control.Underway other port op w).state = _
      rw [hstep, hrest]
      rfl

/--
In a lock-step run of a courier that nobody has used before, over any port and among any
listeners:

* between operations a stop that was asked for shows for as long as the loop's thread lives;
* where a tick ends, on the loop's thread, it shows exactly if no listener has asked for it;
* listeners are told of nothing but where the phase says that the loop is running, whether
  a stop has been asked for or not;
* between operations a stop is hidden, with the thread ended and the phase still saying that the
  loop is running, exactly if a listener has asked for it in the tick of a pass after which the
  port could not be closed, and nobody has started or stopped the loop since.
-/
theorem pending_stop_shows_iff
    (port : Port σ)
    {w : World σ Audience}
    (hfresh : w.courier.control = Control.fresh)
    {ops : List Operation}
    (hops : ∀ op ∈ ops, op.isLockStep = true) :
    let v := reached port ops w
    let tickEnd := fun u => (tickAmong port u).state.courier.control
    v.courier.control.ShowsStop ∧
      ((∀ u ∈ tickStarts port ops w, (tickEnd u).ShowsStop) ↔
        ∀ u ∈ tickStarts port ops w, (tickEnd u).stopFlag = false) ∧
      (∀ other, stepsGuarded Control.Underway other port ops w = steps port ops w) ∧
      (v.courier.control.HidesStop → v.courier.control.thread = .ended) ∧
      (v.courier.control.HidesStop ↔
        ∃ before after, ops = before ++ .pass :: after ∧
          LeavesHidden port (reached port before w) ∧
          ∀ op ∈ after, op ≠ .start ∧ ∀ bounded, op ≠ .stop bounded) := by
  intro v tickEnd
  have hw : w.courier.control.AtRest := by
    rw [hfresh]
    exact ⟨by decide, by decide, by decide⟩
  have hshown : ¬ w.courier.control.HidesStop := by
    rw [hfresh]
    rintro ⟨hasked, -⟩
    cases hasked
  have hv : v.courier.control.AtRest := rests_reached port hops hw
  refine ⟨hv.showsStop, ?_, fun other => stepsGuarded_underway port other hops hw,
    hv.ended_of_hidesStop, hidesStop_reached_iff port hops hw hshown⟩
  refine forall₂_congr fun u hu => ?_
  exact (underway_tickAmong (underway_tickStarts port hops hw u hu)).showsStop_iff

/-- A stop that does not wait shows after a pass, until the thread has ended. -/
theorem pending_stop_shows_unused :
    let port := answeredPort .null (.steady Responder.ofOutcomes)
    let w := unused [.ok [], .ok [], .error (.noReply "late")] []
    let ops : List Operation := [.start, .pass, .stop true]
    (reached port ops w).courier.control.thread = .parked ∧
      (reached port ops w).courier.control.phase = .stopping ∧
      ¬ (reached port ops w).courier.control.HidesStop := by
  intro port w ops
  have hparked : (reached port ops w).courier.control.thread = .parked := by decide +kernel
  have hasked : (reached port ops w).courier.control.stopFlag = true := by decide +kernel
  have hops : ∀ op ∈ ops, op.isLockStep = true := by decide
  obtain ⟨hshows, -, -, hended, -⟩ := pending_stop_shows_iff port (w := w) rfl hops
  exact ⟨hparked, Control.stopping_of_parked hshows hended hparked hasked⟩

/-- A listener stops the loop when it is told of the command, and the port cannot be closed.  It
is told of the reply where the phase says that the loop is running, and so the phase stays. -/
theorem pending_stop_hidden_unused :
    let port := answeredPort .null (.steady Responder.ofOutcomes)
    let who : Listener := ⟨"rec", .null⟩
    let idling : List UInt8 :=
      Frame.encode Frame.replyType [0x01, 0x10, 0x00, 0x0D, 0x21, 0x00]
    let w := unused [.ok [], .ok [], .ok idling, .error (.device .runtime "boom")]
      [⟨who, [[.performs (.stop false)]]⟩]
    let ops : List Operation := [.start, .pass]
    let v := reached port ops w
    let silent : Deliver (AnsweredLine _) Audience := fun _ _ => Run.give ()
    (∃ u ∈ tickStarts port ops w, ¬ (tickAmong port u).state.courier.control.ShowsStop) ∧
      (Trace.heardBy "rec" (chronicle port ops w)).length = 3 ∧
      (Trace.heardBy "rec"
        ((stepsGuarded Control.ShowsStop silent port ops w).flatMap Report.trace)).length = 1 ∧
      v.courier.control.stopFlag = true ∧
      v.courier.control.phase = .running ∧
      v.courier.control.thread = .ended := by
  decide +kernel

end World

end AcceptorHost
