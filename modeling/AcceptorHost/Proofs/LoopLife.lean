import AcceptorHost.Proofs.Alternation
import AcceptorHost.Proofs.Confinement
import AcceptorHost.Proofs.Recovery

/-!
# The life of the loop

The marks in a trace tell the life of the loop: a thread begins only if none lives, and one
that lives ends only after a stop was asked for since it began; it may end unasked only where
the platform refuses its waits, and then it dies (`Life.next?`).  The control state shows a
life too, and its phase, its stop flag and the place of its thread may fit together
(`Control.InOrder`).  While the loop's thread is at work, listeners on it can neither start
another thread nor wait for its end; a stop that they ask for leaves its mark and the stop
flag.  So whatever happens there, the marks tell the life that the control state shows.
-/

namespace AcceptorHost

/-- What the marks of the loop tell of its thread. -/
inductive Life where
  /-- Nobody has started or stopped the loop. -/
  | fresh
  /-- No thread lives. -/
  | resting
  /-- A thread lives, and a stop has been asked for since it began or has not. -/
  | living (asked : Bool)
  /-- A thread has ended its loop unasked and is about to die of it. -/
  | dying
  deriving DecidableEq, Repr

/-- The life after a mark, if the mark may be left; only a thread whose waits the platform
refuses may end unasked. -/
def Life.next? (waits : Bool) : Life → LoopMark → Option Life
  | .living _, .stopAsked => some (.living true)
  | .living true, .ended => some .resting
  | .living false, .ended => if waits then none else some .dying
  | .dying, .died => some .resting
  | .fresh, .started | .resting, .started => some (.living false)
  | .fresh, .stopAsked | .resting, .stopAsked => some .resting
  | _, _ => none

/-- A loop that has left a mark is fresh no longer. -/
theorem Life.ne_fresh_of_next?
    {waits : Bool}
    {l k : Life}
    {m : LoopMark}
    (h : l.next? waits m = some k) :
    k ≠ .fresh := by
  rintro rfl
  cases l with
  | living asked =>
      cases asked <;> cases waits <;> cases m <;> cases h
  | _ =>
      cases m <;> cases h

namespace Control

/-- The life of the loop as the control state shows it. -/
def life (c : Control) : Life :=
  if c.thread.isAlive then .living c.stopFlag
  else if c.phase = .notStarted then .fresh
  else .resting

/-- The phase, the stop flag and the place of the thread fit together. -/
structure InOrder (c : Control) : Prop where
  begun : c.thread.isAlive = true → c.phase = .running ∨ c.phase = .stopping
  asked : c.phase = .stopping → c.stopFlag = true
  stopped : c.phase = .stopped → c.thread.isAlive = false
  untouched : c.phase = .notStarted → c.thread = .absent ∧ c.stopFlag = false
  ended : c.thread = .ended → c.phase = .stopped

theorem inOrder_iff
    (c : Control) :
    c.InOrder ↔
      (c.thread.isAlive = true → c.phase = .running ∨ c.phase = .stopping)
        ∧ (c.phase = .stopping → c.stopFlag = true)
        ∧ (c.phase = .stopped → c.thread.isAlive = false)
        ∧ (c.phase = .notStarted → c.thread = .absent ∧ c.stopFlag = false)
        ∧ (c.thread = .ended → c.phase = .stopped) :=
  ⟨fun h => ⟨h.begun, h.asked, h.stopped, h.untouched, h.ended⟩,
    fun ⟨begun, asked, stopped, untouched, ended⟩ => ⟨begun, asked, stopped, untouched, ended⟩⟩

instance : DecidablePred InOrder := fun c => decidable_of_iff _ (inOrder_iff c).symm

variable {c d : Control}

theorem life_of_alive
    (h : c.thread.isAlive = true) :
    c.life = .living c.stopFlag := by
  unfold life
  rw [if_pos h]

/-- The life shows no more than the thread, the phase and the stop flag. -/
theorem life_congr
    (hthread : d.thread = c.thread)
    (hphase : d.phase = c.phase)
    (hstop : d.stopFlag = c.stopFlag) :
    d.life = c.life := by
  unfold life
  rw [hthread, hphase, hstop]

theorem InOrder.congr
    (h : c.InOrder)
    (hthread : d.thread = c.thread)
    (hphase : d.phase = c.phase)
    (hstop : d.stopFlag = c.stopFlag) :
    d.InOrder := by
  rw [inOrder_iff, hthread, hphase, hstop, ← inOrder_iff]
  exact h

end Control

/-- The settings of a courier that was made of integers. -/
structure Policy.IsWhole (p : Policy) : Prop where
  shown : ∃ text, World.intervalText p.pollInterval = .ok text
  limit : ∃ n, p.retryLimit = .int n

/-- The thread of a running loop is at work. -/
structure Courier.AtWork (c : Courier) : Prop where
  thread : c.control.thread = .running
  phase : c.control.phase = .running
  whole : c.policy.IsWhole

/-- What a port is called for does not change how its calls end. -/
theorem Port.Yields.recorded
    {σ : Type}
    {port : Port σ}
    (h : port.Yields) :
    port.recorded.Yields :=
  ⟨h.closes, h.connect, h.discard, h.send, h.receive⟩

/-- Along a run the policy stays, the marks tell the life of the loop, and nothing happens before
it is touched. -/
def Passage.lively
    {σ : Type} :
    Passage (World σ Audience) where
  holds w t v :=
    v.courier.policy = w.courier.policy
      ∧ t.loopMarks.foldlM (Life.next? w.courier.policy.canWait) w.courier.control.life =
        some v.courier.control.life
      ∧ (v.courier.control.life = .fresh → t = [])
  stay _ := ⟨rfl, rfl, fun _ => rfl⟩
  onward := by
    rintro w t v u x ⟨hkept, hfirst, hbefore⟩ ⟨hpolicy, hsecond, hafter⟩
    rw [hkept] at hsecond
    refine ⟨hpolicy.trans hkept, ?_, fun hfresh => ?_⟩
    · rw [Trace.loopMarks_append, List.foldlM_append, hfirst]
      exact hsecond
    · have hu := hafter hfresh
      subst hu
      have hsame : v.courier.control.life = x.courier.control.life := Option.some.inj hsecond
      rw [hbefore (hsame.trans hfresh)]
      rfl

/-- A run on the loop's thread among listeners that halt only in faults. -/
abbrev Passage.working
    {σ : Type} :
    Passage (World σ Audience) :=
  lively.amid Courier.AtWork Reaction.isContained

namespace World

variable {σ : Type} {port : Port σ}

/-- A trace without marks that leaves the life as it is; somebody has touched the loop. -/
theorem lively_of_unmarked
    {w v : World σ Audience}
    {t : Trace}
    (hpolicy : v.courier.policy = w.courier.policy)
    (hmarks : t.loopMarks = [])
    (hlife : v.courier.control.life = w.courier.control.life)
    (htouched : v.courier.control.life ≠ .fresh) :
    Passage.lively.holds w t v := by
  refine ⟨hpolicy, ?_, fun hfresh => absurd hfresh htouched⟩
  rw [hmarks, hlife]
  rfl

/-- A trace with one mark, which tells of the change of the life. -/
theorem lively_of_mark
    {w v : World σ Audience}
    {t : Trace}
    {m : LoopMark}
    (hpolicy : v.courier.policy = w.courier.policy)
    (hmarks : t.loopMarks = [m])
    (hnext : w.courier.control.life.next? w.courier.policy.canWait m =
      some v.courier.control.life) :
    Passage.lively.holds w t v := by
  refine ⟨hpolicy, ?_, fun hfresh => absurd hfresh (Life.ne_fresh_of_next? hnext)⟩
  rw [hmarks, List.foldlM_cons, hnext]
  rfl

/-- Once somebody has touched the loop it stays touched. -/
theorem touched_of_lively
    {w v : World σ Audience}
    {t : Trace}
    (h : Passage.lively.holds w t v)
    (hw : w.courier.control.life ≠ .fresh) :
    v.courier.control.life ≠ .fresh := by
  intro hfresh
  have ht := h.2.2 hfresh
  subst ht
  exact hw ((Option.some.inj h.2.1).trans hfresh)

/-- A run on the loop's thread that leaves no mark and touches neither the courier nor the plans. -/
theorem working_of_unmarked
    {α : Type}
    {x : Run (World σ Audience) α}
    (hmarks : ∀ w, (x w).trace.loopMarks = [])
    (hcourier : ∀ w, (x w).state.courier = w.courier)
    (haudience : ∀ w, (x w).state.audience = w.audience) :
    Run.Follows .working x := by
  intro w hw
  have hlife : w.courier.control.life ≠ .fresh := by
    rw [Control.life_of_alive (by rw [hw.1.thread]; rfl)]
    simp
  refine ⟨lively_of_unmarked (by rw [hcourier]) (hmarks w) (by rw [hcourier]) ?_,
    hw.of_eq (hcourier w) (haudience w)⟩
  rwa [hcourier]

theorem working_emit
    {e : Entry}
    (he : e.loopMark? = none) :
    Run.Follows .working (Run.emit e : Run (World σ Audience) Unit) :=
  working_of_unmarked (fun _ => Trace.loopMarks_cons_none he []) (fun _ => rfl) fun _ => rfl

/-- What is called of a port leaves no mark. -/
theorem working_recorded
    {α : Type}
    (c : PortCall)
    (x : Run σ α) :
    Run.Follows .working (onPort (x.recorded c)) :=
  working_of_unmarked (fun _ => rfl) (fun _ => rfl) fun _ => rfl

theorem working_change
    {f : Courier → Courier}
    (hthread : ∀ c, (f c).control.thread = c.control.thread)
    (hphase : ∀ c, (f c).control.phase = c.control.phase)
    (hstop : ∀ c, (f c).control.stopFlag = c.control.stopFlag)
    (hpolicy : ∀ c, (f c).policy = c.policy) :
    Run.Follows .working (change f : Run (World σ Audience) Unit) := by
  intro w hw
  have hlife := Control.life_congr (hthread w.courier) (hphase w.courier) (hstop w.courier)
  have hholds : Passage.lively.holds w [] (change f w).state :=
    ⟨hpolicy _, congrArg some hlife.symm, fun _ => rfl⟩
  refine ⟨hholds, ⟨(hthread _).trans hw.1.thread, (hphase _).trans hw.1.phase, ?_⟩, hw.2⟩
  change (f w.courier).policy.IsWhole
  rw [hpolicy]
  exact hw.1.whole

/-- A tick may happen on the loop's thread if its listeners may be told there. -/
theorem permits_working
    {deliver : Deliver σ Audience}
    (hdeliver : ∀ l e, Run.Follows .working (deliver l e)) :
    Passage.Permits .working port.recorded deliver where
  log _ _ hmark := working_emit hmark
  failed _ _ := working_emit rfl
  slept _ := working_emit rfl
  mailbox _ := working_change (fun _ => rfl) (fun _ => rfl) (fun _ => rfl) fun _ => rfl
  turned := working_change (fun _ => rfl) (fun _ => rfl) (fun _ => rfl) fun _ => rfl
  record _ := working_change (fun _ => rfl) (fun _ => rfl) (fun _ => rfl) fun _ => rfl
  connect := working_recorded .connect port.connect
  disconnect := working_recorded .disconnect port.disconnect
  discard := working_recorded .discard port.discard
  send bs := working_recorded (.send bs) (port.send bs)
  receive n timeout := working_recorded (.receive n timeout) (port.receive n timeout)
  delivered := hdeliver

/-- A stop that is asked for on the loop's thread leaves its mark and does not end the thread. -/
theorem working_requestStop
    (bounded : Bool) :
    Run.Follows .working (requestStop port bounded : Run (World σ Audience) Bool) := by
  intro w hw
  have halive : w.courier.control.thread.isAlive = true := by
    rw [hw.1.thread]
    rfl
  have hmarks : Trace.loopMarks [.log Level.debug "Stopping courier thread...",
      .log Level.warning "request_stop() called from the courier thread; not waiting"] =
      [.stopAsked] := by
    rw [Trace.loopMarks_cons_some Entry.loopMark?_stopping,
      Trace.loopMarks_cons_none (Entry.loopMark?_warning _)]
    rfl
  rw [requestStop_of_running port bounded hw.1.thread]
  refine ⟨lively_of_mark rfl hmarks ?_, ⟨hw.1.thread, hw.1.phase, hw.1.whole⟩, hw.2⟩
  rw [Control.life_of_alive halive]
  exact congrArg some
    (Control.life_of_alive (c := { w.courier.control with stopFlag := true }) halive).symm

variable (port) in
/-- Whatever listeners ask for on the loop's thread, the marks tell the life of the loop. -/
theorem working_bears :
    Passage.lively.Bears Courier.AtWork Reaction.isContained port.recorded where
  emit _ _ hmark := working_emit hmark
  unaudited _ _ := ⟨rfl, rfl, fun _ => rfl⟩
  perform := by
    intro deliver hdeliver op _
    have hpermits : Passage.Permits .working port.recorded deliver :=
      permits_working hdeliver.follows
    have hlisteners (f : Registry Listener → Registry Listener) :
        Run.Follows .working (listeners f : Run (World σ Audience) Unit) :=
      working_change (fun _ => rfl) (fun _ => rfl) (fun _ => rfl) fun _ => rfl
    refine Run.Follows.perform (fun f hthread hphase hstop => ?_) ?_
    · exact working_change (fun c => hthread c.control) (fun c => hphase c.control)
        (fun c => hstop c.control) fun _ => rfl
    cases op with
    | poll =>
        exact hpermits.tick
    | subscribe l =>
        exact hlisteners _
    | unsubscribe l =>
        exact hlisteners _
    | unsubscribeAll =>
        exact hlisteners _
    | dispatch e =>
        exact hpermits.fire e
    | start =>
        intro w hw
        rw [start_of_running _ hw.1.thread]
        exact ⟨Passage.lively.stay w, hw⟩
    | pass =>
        intro w hw
        rw [pass_of_not_parked _ deliver (by rw [hw.1.thread]; decide)]
        exact ⟨Passage.lively.stay w, hw⟩
    | stop bounded =>
        exact working_requestStop bounded
    | _ =>
        trivial

/-- Among listeners that halt only in faults a tick may happen over a port that yields. -/
theorem settled_working
    (hport : port.Yields)
    {deliver : Deliver σ Audience}
    (hdeliver : Mild Courier.AtWork Reaction.isContained Passage.lively deliver) :
    Settled (Attended Courier.AtWork Reaction.isContained) Passage.lively port.recorded
      deliver where
  permits := permits_working hdeliver.follows
  yields := hport.recorded
  fire e _ hw := hdeliver.fire_ok (fun _ _ => working_emit rfl) (fun _ h => h) e hw
  limit _ hw := hw.1.whole.limit

end World

end AcceptorHost
