import AcceptorHost.Proofs.OperationLaws
import AcceptorHost.Proofs.Ticks

/-!
# The end of the loop

A thread that finishes its loop closes the port and tells of its end, or dies of closing
the port, and its trace shows which.  A passage concludes if the thread's work may end
along it as a whole; the closing alone need not be part of it.  Waits, stops and the
follow-up of a tick follow such a passage, and so does every operation that comes to no
tick or whose ticks follow it.
-/

namespace AcceptorHost

/-- An entry tells of the end of the loop. -/
def Entry.endsLoop : Entry → Bool
  | .log level text => level == Level.info && text == "Courier stopped"
  | .threadDied _ => true
  | _ => false

theorem Entry.isCall_of_isInert
    {e : Entry}
    (he : e.isInert = true) :
    e.isCall = false := by
  cases e with
  | port c =>
      cases he
  | serial c =>
      cases he
  | _ =>
      rfl

/-- A trace tells of the end of the loop. -/
def Trace.endsLoop (t : Trace) : Bool := t.any Entry.endsLoop

@[simp] theorem Trace.endsLoop_append
    (t u : Trace) :
    (t ++ u).endsLoop = (t.endsLoop || u.endsLoop) := by
  simp [endsLoop]

/-- Along a passage the loop's thread may wait and its work may come to its end. -/
structure Passage.Concludes
    {σ τ : Type}
    (p : Passage (World σ τ))
    (port : Port σ) : Prop
    extends p.Loose where
  waited : ∀ x, Run.Follows p (Run.emit (.waited x))
  finished : ∀ {next : Run (World σ τ) Thread}, Run.Follows p next →
    Run.Follows p (World.concludeThread (World.finish port >>= fun _ => next))

namespace World

variable {σ τ : Type}

theorem mem_trace_concludeThread
    {x : Run (World σ τ) Thread}
    {e : Entry}
    {w : World σ τ}
    (h : e ∈ (x w).trace) :
    e ∈ (concludeThread x w).trace := by
  cases hx : (x w).result with
  | ok place =>
      rw [concludeThread_of_ok hx]
      exact h
  | error halt =>
      rw [concludeThread_of_error hx]
      exact List.mem_append_left _ h

/-- A thread that finishes its loop tells of its end, or dies of closing the port. -/
theorem concludeThread_finish_endsLoop
    (port : Port σ)
    (next : Run (World σ τ) Thread)
    (w : World σ τ) :
    (concludeThread (finish port >>= fun _ => next) w).trace.endsLoop = true := by
  refine List.any_eq_true.mpr ?_
  cases hfinish : (finish port w).result with
  | ok u =>
      obtain ⟨v, hclose, -⟩ := Run.ok_of_bind hfinish
      have hstopped : .log Level.info "Courier stopped" ∈ (finish port w).trace := by
        have htrace := congrArg Report.trace (Run.bind_of_ok (f := fun _ => do
          Run.log Level.info "Courier stopped"
          enterPhase .stopped) hclose)
        exact htrace ▸ List.mem_append_right _ List.mem_cons_self
      refine ⟨.log Level.info "Courier stopped", mem_trace_concludeThread ?_, by decide⟩
      rw [Run.bind_of_ok hfinish]
      exact List.mem_append_left _ hstopped
  | error h =>
      have herror : ((finish port >>= fun _ => next) w).result = .error h := by
        rw [Run.bind_of_error hfinish]
      refine ⟨.threadDied h, ?_, rfl⟩
      rw [concludeThread_of_error herror]
      exact List.mem_append_right _ List.mem_cons_self

end World

namespace Passage

variable {σ τ : Type} {p : Passage (World σ τ)} {port : Port σ}

/-- A passage concludes along which every inert entry may be left, the control state may change
and the port be closed. -/
theorem concludes_of_emit
    (hemit : ∀ e : Entry, e.isInert = true → Run.Follows p (Run.emit e))
    (hcontrol : ∀ f, Run.Follows p (World.control f))
    (hclose : Run.Follows p (World.onPort port.disconnect : Run (World σ τ) Unit)) :
    p.Concludes port := by
  have hloose : p.Loose := ⟨fun _ _ h => hemit _ h, fun _ => hemit _ rfl, hcontrol⟩
  exact {
    toLoose := hloose
    waited := fun _ => hemit _ rfl
    finished := fun hnext => hloose.concludeThread ((hloose.finish hclose).bind fun _ => hnext) }

namespace Concludes

variable (h : p.Concludes port)
include h

theorem parkOrFinish :
    Run.Follows p (World.concludeThread (World.parkOrFinish port)) := by
  intro w
  let close : Run (World σ τ) Thread := World.finish port >>= fun _ => Run.give .ended
  have hchoice :
      World.parkOrFinish port w =
        (if w.courier.control.stopFlag then close else Run.give .parked) w := rfl
  cases hstop : w.courier.control.stopFlag with
  | true =>
      rw [hstop] at hchoice
      rw [World.concludeThread_after (y := close) (t := []) hchoice]
      exact h.finished (Run.Follows.give _) w
  | false =>
      rw [hstop] at hchoice
      rw [World.concludeThread_after (y := Run.give .parked) (t := []) hchoice]
      exact h.concludeThread (Run.Follows.give _) w

/-- A wait is followed by a parking or by the end of the thread, and so is its refusal. -/
theorem waitAndPark :
    Run.Follows p (World.concludeThread (World.waitAndPark port)) := by
  intro w
  cases hwaits : w.courier.canWait with
  | true =>
      rw [World.concludeThread_waits port hwaits]
      exact p.onward (h.waited w.courier.policy.pollInterval w) (h.parkOrFinish w)
  | false =>
      rw [World.concludeThread_refused port hwaits]
      exact h.finished (Run.Follows.halt _) w

/-- A caller that waits for the loop to stop sees it end as a whole. -/
theorem requestStop
    (bounded : Bool) :
    Run.Follows p (World.requestStop port bounded) := by
  cases bounded with
  | true =>
      exact h.toLoose.requestStop fun hbounded => by cases hbounded
  | false =>
      intro w
      have hreport : Run.Follows p (World.reportEnd false : Run (World σ τ) Bool) :=
        World.follows_reportEnd (h.log _ _ rfl) false
      have hask (c : Control) :
          p.holds w [.log Level.debug "Stopping courier thread..."]
            { w with courier := { w.courier with control := c } } :=
        p.onward (t := [_]) (h.log _ _ rfl w) (h.control (fun _ => c) w)
      cases hthread : w.courier.control.thread with
      | absent =>
          rw [World.requestStop_of_absent port false hthread]
          exact hask _
      | running =>
          rw [World.requestStop_of_running port false hthread]
          exact p.onward (t := [_]) (hask _) (h.log _ _ (by decide +kernel) _)
      | ended =>
          rw [World.requestStop_of_ended port false hthread]
          exact p.onward (t := [_]) (hask _) (hreport w.stopAsked)
      | parked =>
          rw [World.requestStop_of_parked port hthread]
          exact p.onward (t := [_]) (hask _) (h.parkOrFinish.bind (fun _ => hreport) _)

theorem followUp
    (op : Operation)
    (ending : Except Halt Unit) :
    Run.Follows p (World.followUp port op ending) := by
  cases ending with
  | ok u =>
      cases op with
      | pass =>
          exact h.waitAndPark.bind fun _ => Run.Follows.give _
      | _ =>
          exact Run.Follows.give _
  | error halt =>
      cases op with
      | pass =>
          exact (h.finished (Run.Follows.halt halt)).bind fun _ => Run.Follows.give _
      | _ =>
          exact Run.Follows.halt halt

theorem idlePass :
    Run.Follows p (World.idlePass port) := by
  have hwork : Run.Follows p
      (World.concludeThread (do
        if ← World.ask fun c => c.control.stopFlag then World.parkOrFinish port
        else World.waitAndPark port)) := by
    intro w
    let finished := World.parkOrFinish (τ := τ) port
    let waiting := World.waitAndPark (τ := τ) port
    have hchoice :
        (World.ask (fun c => c.control.stopFlag) >>= fun stop =>
            if stop then finished else waiting) w =
          (if w.courier.control.stopFlag then finished else waiting) w := rfl
    cases hstop : w.courier.control.stopFlag with
    | true =>
        rw [hstop] at hchoice
        rw [World.concludeThread_after (y := finished) (t := []) hchoice]
        exact h.parkOrFinish w
    | false =>
        rw [hstop] at hchoice
        rw [World.concludeThread_after (y := waiting) (t := []) hchoice]
        exact h.waitAndPark w
  exact (Run.Follows.look _).bind fun _ =>
    Run.Follows.ite ((h.control _).bind fun _ => hwork) (Run.Follows.give ())

/-- A pass follows a passage that ticks follow. -/
theorem pass
    {deliver : Deliver σ τ}
    (htick : Run.Follows p (World.tick port deliver)) :
    Run.Follows p (World.perform port deliver .pass) := by
  intro w
  cases hticks : Operation.pass.ticks w.courier with
  | true =>
      rw [World.perform_of_tick hticks]
      exact p.onward (t := []) (h.control (fun c => { c with thread := .running }) w)
        (htick.attempt.bind (fun ending => h.followUp .pass ending) _)
  | false =>
      have hidle :
          World.perform port deliver .pass w =
            (World.idlePass port >>= fun _ => Run.give Value.null) w :=
        Run.bind_congr (World.pass_of_idle hticks) _
      rw [hidle]
      exact h.idlePass.bind (fun _ => Run.Follows.give _) w

/-- An operation follows a passage if the change of the registered listeners, the event and the
ticks that it may come to do. -/
theorem perform
    {deliver : Deliver σ τ}
    {op : Operation}
    (hlisteners : op.change?.isSome = true → ∀ f, Run.Follows p (World.listeners f))
    (hfire : ∀ e, op = .dispatch e → Run.Follows p (World.fire deliver e))
    (htick : op = .poll ∨ op = .pass → Run.Follows p (World.tick port deliver)) :
    Run.Follows p (World.perform port deliver op) := by
  cases op with
  | poll =>
      exact (htick (Or.inl rfl)).bind fun _ => Run.Follows.give _
  | pass =>
      exact h.pass (htick (Or.inr rfl))
  | subscribe l =>
      exact (hlisteners rfl _).bind fun _ => Run.Follows.give _
  | unsubscribe l =>
      exact (hlisteners rfl _).bind fun _ => Run.Follows.give _
  | unsubscribeAll =>
      exact (hlisteners rfl _).bind fun _ => Run.Follows.give _
  | dispatch e =>
      exact (hfire e rfl).bind fun _ => Run.Follows.give _
  | start =>
      exact h.start.bind fun _ => Run.Follows.give _
  | stop bounded =>
      exact (h.requestStop bounded).bind fun _ => Run.Follows.give _
  | _ =>
      exact Run.Follows.perform (fun f _ _ _ => h.control f) trivial

end Concludes

/-- On the loop's own thread an operation waits for no end of the loop: it follows a passage
if the log, the changes that leave the thread and the phase, and its tick do. -/
theorem perform_of_running
    {inv : World σ τ → Prop}
    {deliver : Deliver σ τ}
    {op : Operation}
    (hinv : ∀ w, inv w → w.courier.control.thread = .running)
    (hlog : ∀ level text, Run.Follows (p.under inv) (Run.log level text))
    (hcontrol : ∀ f : Control → Control, (∀ c, (f c).thread = c.thread) →
      (∀ c, (f c).phase = c.phase) → Run.Follows (p.under inv) (World.control f))
    (hlisteners : ∀ f, Run.Follows (p.under inv) (World.listeners f))
    (hfire : ∀ e, Run.Follows (p.under inv) (World.fire deliver e))
    (htick : op = .poll → Run.Follows (p.under inv) (World.tick port deliver)) :
    Run.Follows (p.under inv) (World.perform port deliver op) := by
  refine Run.Follows.perform (fun f hthread hphase _ => hcontrol f hthread hphase) ?_
  cases op with
  | poll =>
      exact htick rfl
  | subscribe l =>
      exact hlisteners _
  | unsubscribe l =>
      exact hlisteners _
  | unsubscribeAll =>
      exact hlisteners _
  | dispatch e =>
      exact hfire e
  | start =>
      intro w hw
      rw [World.start_of_running _ (hinv w hw)]
      exact ⟨p.stay w, hw⟩
  | pass =>
      intro w hw
      rw [World.pass_of_not_parked _ deliver (by rw [hinv w hw]; decide)]
      exact ⟨p.stay w, hw⟩
  | stop bounded =>
      intro w hw
      rw [World.requestStop_of_running _ bounded (hinv w hw)]
      have hflag := hcontrol (fun c => { c with stopFlag := true }) (fun _ => rfl) fun _ => rfl
      exact (p.under inv).onward (t := []) (hflag w)
        ((p.under inv).onward (t := [_]) (hlog _ _ _) (hlog _ _ _)) hw
  | _ =>
      trivial

end Passage

end AcceptorHost
