import AcceptorHost.Proofs.Chronicle
import AcceptorHost.Proofs.LoopThread

/-!
# How the loop's thread parks or ends

A run on the loop's thread either parks or ends.  It ends with a try to close the port,
after which no call is made: if that succeeds the courier has stopped, and if it fails
the thread is dead and the courier has not.
-/

namespace AcceptorHost

/-- The last of these calls is a try to close the port, and fails. -/
def PortCall.LeaveOpen (calls : List (PortCall × Answer)) : Prop :=
  ∃ before h, calls = before ++ [(.disconnect, .halts h)]

theorem PortCall.not_leaveOpen_nil :
    ¬ LeaveOpen [] := by
  rintro ⟨before, h, hcalls⟩
  have hlength := congrArg List.length hcalls
  simp at hlength

theorem PortCall.leaveOpen_disconnect_iff
    (before : List (PortCall × Answer))
    (a : Answer) :
    LeaveOpen (before ++ [(.disconnect, a)]) ↔ a.failure? ≠ none := by
  constructor
  · rintro ⟨earlier, h, hcalls⟩
    have hlast := List.append_inj_right' hcalls rfl
    simp only [List.cons.injEq, Prod.mk.injEq, and_true, true_and] at hlast
    rw [hlast, Answer.failure?_halts]
    exact Option.some_ne_none h
  · intro ha
    obtain ⟨h, hfailure⟩ := Option.ne_none_iff_exists'.mp ha
    exact ⟨before, h, by rw [Answer.eq_halts_of_failure? hfailure]⟩

namespace World

variable {σ : Type} {peer : Peer σ}

/-- From a world a trace leads to one where the loop's thread ends: the last call is a try to
close the port, and the courier has stopped if that succeeded. -/
structure Ends (peer : Peer σ) (w : World (AnsweredLine σ) Audience)
    (t : Trace) (v : World (AnsweredLine σ) Audience) : Prop where
  party_eq : t.party peer w.port.party = v.port.party
  policy_eq : v.courier.policy = w.courier.policy
  closes : ∃ before a, t.calls peer w.port.party = before ++ [(.disconnect, a)]
    ∧ (v.courier.control.phase = .stopped ↔ a.failure? = none)

/-- From a world a run of the loop's thread parks it or ends it. -/
inductive Lands (peer : Peer σ) (w : World (AnsweredLine σ) Audience)
    (r : Report (World (AnsweredLine σ) Audience) Thread) : Prop
  | parks
      (hresult : r.result = .ok .parked)
      (hsteady : (Passage.steady peer).holds w r.trace r.state)
  | ends
      (hresult : ∀ place, r.result = .ok place → place = .ended)
      (hends : Ends peer w r.trace r.state)

variable {w v u : World (AnsweredLine σ) Audience} {t : Trace}

/-- What ends the thread after a steady stretch ends it from before that stretch. -/
theorem Ends.after
    {t' : Trace}
    (h : Ends peer v t' u)
    (hsteady : (Passage.steady peer).holds w t v) :
    Ends peer w (t ++ t') u := by
  obtain ⟨hparty, -, hpolicy⟩ := hsteady
  obtain ⟨before, a, hcalls, hphase⟩ := h.closes
  refine ⟨?_, h.policy_eq.trans hpolicy, ?_⟩
  · rw [Trace.party_append, hparty, h.party_eq]
  · refine ⟨t.calls peer w.port.party ++ before, a, ?_, hphase⟩
    rw [Trace.calls_append, hparty, hcalls, List.append_assoc]

theorem Lands.after
    {r : Report (World (AnsweredLine σ) Audience) Thread}
    (h : Lands peer v r)
    (hsteady : (Passage.steady peer).holds w t v) :
    Lands peer w ⟨t ++ r.trace, r.result, r.state⟩ := by
  cases h with
  | parks hresult hparks =>
      exact .parks hresult (Passage.onward _ hsteady hparks)
  | ends hresult hends =>
      exact .ends hresult (hends.after hsteady)

variable (peer) (name : Value)

/-- The loop's end closes the port, and is reported if that succeeds. -/
theorem ends_finish
    (hphase : w.courier.control.phase ≠ .stopped) :
    let r := finish (answeredPort name peer) w
    Ends peer w r.trace r.state := by
  intro r
  have hasks := asks_disconnect (τ := Audience) name peer
  have hclose : (onPort (answeredPort name peer).disconnect w).result = _ :=
    result_call peer .disconnect w
  unfold Answer.completion at hclose
  have hcalls : (onPort (answeredPort name peer).disconnect w).trace.calls peer
      w.port.party = [(.disconnect, (peer .disconnect w.port.party).1)] := by
    rw [hasks.trace_eq]
    rfl
  obtain ⟨hparty, hkept, hpolicy⟩ := steady_asks hasks w
  cases ha : (peer .disconnect w.port.party).1.failure? with
  | some h =>
      rw [ha] at hclose
      have hr : r = _ := Run.bind_of_error hclose
      rw [hr]
      refine ⟨hparty, hpolicy, [], _, hcalls, ?_⟩
      rw [ha]
      exact iff_of_false (fun hstopped => hphase (hkept.symm.trans hstopped))
        (Option.some_ne_none h)
  | none =>
      rw [ha] at hclose
      have hr : r = _ := Run.bind_of_ok hclose
      rw [hr]
      refine ⟨?_, hpolicy, [], _, ?_, iff_of_true rfl ha⟩
      · rw [Trace.party_append]
        exact hparty
      · rw [Trace.calls_append, hcalls]
        rfl

/-- The loop's end ends the thread, whatever is returned or thrown after it. -/
theorem ends_finish_bind
    {α : Type}
    {rest : Unit → Run (World (AnsweredLine σ) Audience) α}
    (hrest : ∀ u w, (rest u w).trace = [] ∧ (rest u w).state = w)
    (hphase : w.courier.control.phase ≠ .stopped) :
    let r := (finish (answeredPort name peer) >>= rest) w
    Ends peer w r.trace r.state := by
  intro r
  obtain ⟨htrace, hstate⟩ := Run.bind_silent hrest (finish (answeredPort name peer)) w
  change Ends peer w ((finish (answeredPort name peer) >>= rest) w).trace
    ((finish (answeredPort name peer) >>= rest) w).state
  rw [htrace, hstate]
  exact ends_finish peer name hphase

/-- With the stop flag set the thread ends, unless it has stopped before. -/
theorem ends_parkOrFinish
    (hphase : w.courier.control.phase ≠ .stopped)
    (hstop : w.courier.control.stopFlag = true) :
    let r := parkOrFinish (answeredPort name peer) w
    Ends peer w r.trace r.state ∧ ∀ place, r.result = .ok place → place = .ended := by
  have hlook : (ask (fun c => c.control.stopFlag) w).result = .ok true := by
    change Except.ok w.courier.control.stopFlag = _
    rw [hstop]
  have hr : parkOrFinish (answeredPort name peer) w =
      (finish (answeredPort name peer) >>= fun _ => Run.give .ended) w := by
    unfold parkOrFinish
    rw [Run.bind_of_ok hlook]
    rfl
  rw [hr]
  refine ⟨ends_finish_bind peer name (fun _ _ => ⟨rfl, rfl⟩) hphase, ?_⟩
  intro place hplace
  obtain ⟨u, -, hgive⟩ := Run.ok_of_bind hplace
  cases hgive
  rfl

theorem lands_parkOrFinish
    (hphase : w.courier.control.phase ≠ .stopped) :
    Lands peer w (parkOrFinish (answeredPort name peer) w) := by
  cases hstop : w.courier.control.stopFlag with
  | true =>
      have hends := ends_parkOrFinish peer name hphase hstop
      exact .ends hends.2 hends.1
  | false =>
      have hlook : (ask (fun c => c.control.stopFlag) w).result = .ok false := by
        change Except.ok w.courier.control.stopFlag = _
        rw [hstop]
      have hr : parkOrFinish (answeredPort name peer) w = ⟨[], .ok .parked, w⟩ := by
        unfold parkOrFinish
        rw [Run.bind_of_ok hlook]
        rfl
      rw [hr]
      exact .parks rfl ⟨rfl, rfl, rfl⟩

/-- A step of the loop is followed by what comes next, or by the loop's end if it halts. -/
theorem lands_guarded
    {x : Run (World (AnsweredLine σ) Audience) Unit}
    {next : Run (World (AnsweredLine σ) Audience) Thread}
    (hphase : w.courier.control.phase ≠ .stopped)
    (hsteady : (Passage.steady peer).holds w (x w).trace (x w).state)
    (hnext : (x w).result = .ok () → Lands peer (x w).state (next (x w).state)) :
    Lands peer w ((guarded (answeredPort name peer) x >>= fun _ => next) w) := by
  let v := (x w).state
  have hphase' : v.courier.control.phase ≠ .stopped := by
    intro hstopped
    exact hphase (hsteady.2.1.symm.trans hstopped)
  cases hresult : (x w).result with
  | ok u =>
      have hguarded := guarded_of_ok (answeredPort name peer) hresult
      have hok : (guarded (answeredPort name peer) x w).result = .ok () := by
        rw [hguarded]
      rw [Run.bind_of_ok hok, hguarded]
      exact (hnext hresult).after hsteady
  | error h =>
      rw [guarded_bind_of_error (answeredPort name peer) hresult]
      -- Closing the port may halt too; then that halt takes the place of the first one.
      refine .ends (fun place hplace => ?_) (Ends.after ?_ hsteady)
      · obtain ⟨u, -, hhalt⟩ := Run.ok_of_bind hplace
        cases hhalt
      · exact ends_finish_bind peer name (fun _ _ => ⟨rfl, rfl⟩) hphase'

/-- A wait leaves an entry at most. -/
theorem steady_waitInterval :
    Run.Follows (Passage.steady peer)
      (waitInterval : Run (World (AnsweredLine σ) Audience) Unit) := by
  have hwaited (x : Binary64) : Run.Follows (Passage.steady peer)
      (Run.emit (.waited x) : Run (World (AnsweredLine σ) Audience) Unit) :=
    fun _ => ⟨rfl, rfl, rfl⟩
  exact (Run.Follows.look _).bind fun _ =>
    ((Run.Follows.look _).bind fun _ => hwaited _).ite (Run.Follows.halt _)

/-- After a wait, or if it is refused, the thread parks or ends. -/
theorem lands_waitAndPark
    (hphase : w.courier.control.phase ≠ .stopped) :
    Lands peer w (waitAndPark (answeredPort name peer) w) := by
  have hsteady := steady_waitInterval peer w
  refine lands_guarded peer name hphase hsteady fun _ => lands_parkOrFinish peer name ?_
  exact fun hstopped => hphase (hsteady.2.1.symm.trans hstopped)

/-- A tick on the loop's thread is followed by a wait, or by the loop's end if it escapes. -/
theorem lands_tick
    {deliver : Deliver (AnsweredLine σ) Audience}
    (hdeliver : ∀ l e, Run.Follows (.aloft peer) (deliver l e))
    (hthread : w.courier.control.thread = .running)
    (hphase : w.courier.control.phase ≠ .stopped) :
    Lands peer w
      ((guarded (answeredPort name peer) (tick (answeredPort name peer) deliver) >>= fun _ =>
        waitAndPark (answeredPort name peer)) w) := by
  obtain ⟨hsteady, -⟩ := (permits_aloft name hdeliver).tick w (attended_of_running hthread)
  refine lands_guarded peer name hphase hsteady fun _ => lands_waitAndPark peer name ?_
  exact fun hstopped => hphase (hsteady.2.1.symm.trans hstopped)

/-- The loop's thread lands at its next parking place or its end. -/
theorem lands_advance
    {deliver : Deliver (AnsweredLine σ) Audience}
    (hdeliver : ∀ l e, Run.Follows (.aloft peer) (deliver l e))
    (hthread : w.courier.control.thread = .running)
    (hphase : w.courier.control.phase ≠ .stopped) :
    Lands peer w (advance (answeredPort name peer) deliver w) := by
  have hbegin : advance (answeredPort name peer) deliver w =
      (if w.courier.control.stopFlag then parkOrFinish (answeredPort name peer)
        else if w.courier.control.paused then waitAndPark (answeredPort name peer)
        else
          guarded (answeredPort name peer) (tick (answeredPort name peer) deliver) >>= fun _ =>
            waitAndPark (answeredPort name peer)) w := rfl
  rw [hbegin]
  split
  · exact lands_parkOrFinish peer name hphase
  · split
    · exact lands_waitAndPark peer name hphase
    · exact lands_tick peer name hdeliver hthread hphase

end World

end AcceptorHost
