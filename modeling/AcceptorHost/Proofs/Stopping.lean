import AcceptorHost.Proofs.LoopExits
import AcceptorHost.Proofs.Rounding

/-!
# A stop that waits

Outside the loop's thread the calls on the port tell where that thread is: while there
never was one there are no calls, and once it has ended the courier has stopped unless
the last call is a try to close the port that failed.  Every operation that neither
ticks nor tells on the caller keeps this.  So a stop without a bound on its wait
completes, except after such a call: then it would wait for a thread that is dead.
-/

namespace AcceptorHost

/-- An operation on the loop or beside it; ticks and events on the caller are none. -/
def Operation.isLockStep : Operation → Bool
  | .poll | .dispatch _ => false
  | _ => true

theorem Policy.interval_zero :
    interval (.int 0) = .ok leastInterval := by
  decide +kernel

/-- An unused courier is made of integers if nobody is registered. -/
theorem World.create_unused
    {σ : Type}
    (party : σ) :
    Courier.create (some Policy.usualLongestWait) Codec.usual (.int 0) (.int 5) .null false =
      .ok (unused party []).courier := by
  unfold Courier.create
  rw [Policy.interval_zero]
  rfl

/-- The place of the loop's thread and the phase are what the calls so far tell. -/
def Control.Tells (calls : List (PortCall × Answer)) (c : Control) : Prop :=
  match c.thread with
  | .absent => calls = []
  | .parked => c.phase ≠ .stopped
  | .running => False
  | .ended => c.phase = .stopped ↔ ¬ PortCall.LeaveOpen calls

/-- The calls so far tell the place of the thread, and the poll interval can be shown. -/
structure Courier.Tracked (calls : List (PortCall × Answer)) (c : Courier) : Prop where
  tells : c.control.Tells calls
  shown : ∃ text, World.intervalText c.policy.pollInterval = .ok text

theorem Control.tells_absent
    {calls : List (PortCall × Answer)}
    {c : Control}
    (hc : c.thread = .absent) :
    c.Tells calls ↔ calls = [] := by
  unfold Tells
  rw [hc]

theorem Control.tells_parked
    {calls : List (PortCall × Answer)}
    {c : Control}
    (hc : c.thread = .parked) :
    c.Tells calls ↔ c.phase ≠ .stopped := by
  unfold Tells
  rw [hc]

theorem Control.tells_ended
    {calls : List (PortCall × Answer)}
    {c : Control}
    (hc : c.thread = .ended) :
    c.Tells calls ↔ (c.phase = .stopped ↔ ¬ PortCall.LeaveOpen calls) := by
  unfold Tells
  rw [hc]

theorem Control.not_running_of_tells
    {calls : List (PortCall × Answer)}
    {c : Control}
    (h : c.Tells calls) :
    c.thread ≠ .running := by
  intro hc
  unfold Tells at h
  rw [hc] at h
  exact h

theorem Control.Tells.congr
    {calls : List (PortCall × Answer)}
    {c d : Control}
    (h : c.Tells calls)
    (hthread : d.thread = c.thread)
    (hphase : d.phase = .stopped ↔ c.phase = .stopped) :
    d.Tells calls := by
  unfold Tells at h ⊢
  rw [hthread]
  split at h
  · exact h
  · exact fun hstopped => h (hphase.mp hstopped)
  · exact h
  · exact hphase.trans h

/-- Along a run the party answers the calls, and they keep telling where the thread is. -/
def Passage.tracked
    {σ : Type}
    (peer : Peer σ) :
    Passage (World (AnsweredLine σ) Audience) where
  holds w t v :=
    ∀ before, w.courier.Tracked before →
      t.party peer w.port.party = v.port.party
        ∧ v.courier.Tracked (before ++ t.calls peer w.port.party)
  stay w before h := by
    refine ⟨rfl, ?_⟩
    have hnone : Trace.calls peer [] w.port.party = [] := rfl
    rw [hnone, List.append_nil]
    exact h
  onward := by
    intro w t v u x h k before hbefore
    obtain ⟨hparty, hfirst⟩ := h before hbefore
    obtain ⟨kparty, hsecond⟩ := k _ hfirst
    refine ⟨?_, ?_⟩
    · rw [Trace.party_append, hparty, kparty]
    · rw [Trace.calls_append, hparty, ← List.append_assoc]
      exact hsecond

namespace World

variable {σ : Type} {peer : Peer σ} {w : World (AnsweredLine σ) Audience}
  {before : List (PortCall × Answer)}

/-- What makes no call and leaves the thread, the phase and the policy alone keeps the track. -/
theorem tracked_change
    {f : Courier → Courier}
    (hthread : ∀ c, (f c).control.thread = c.control.thread)
    (hphase : ∀ c, (f c).control.phase = c.control.phase)
    (hpolicy : ∀ c, (f c).policy = c.policy) :
    Run.Follows (.tracked peer) (change f) := by
  intro w before h
  refine ⟨rfl, ?_, ?_⟩
  · change (f w.courier).control.Tells (before ++ [])
    rw [List.append_nil]
    exact h.tells.congr (hthread _) (by rw [hphase])
  · change ∃ text, intervalText (f w.courier).policy.pollInterval = .ok text
    rw [hpolicy]
    exact h.shown

theorem tracked_log
    (level : Int)
    (text : String) :
    Run.Follows (.tracked peer) (Run.log level text) := by
  intro w before h
  refine ⟨rfl, ?_⟩
  change w.courier.Tracked (before ++ [])
  rw [List.append_nil]
  exact h

/-- After the thread's work the calls tell where the thread is. -/
theorem tracked_concludeThread
    {x : Run (World (AnsweredLine σ) Audience) Thread}
    (hlands : Lands peer w (x w))
    (hphase : w.courier.control.phase ≠ .stopped)
    (hshown : ∃ text, intervalText w.courier.policy.pollInterval = .ok text)
    (before : List (PortCall × Answer)) :
    let r := concludeThread x w
    r.trace.party peer w.port.party = r.state.port.party
      ∧ r.state.courier.Tracked (before ++ r.trace.calls peer w.port.party) := by
  cases hlands with
  | parks hresult hsteady =>
      obtain ⟨hparty, hkept, hpolicy⟩ := hsteady
      rw [concludeThread_of_ok hresult]
      refine ⟨hparty, ?_, ?_⟩
      · refine (Control.tells_parked rfl).mpr ?_
        change (x w).state.courier.control.phase ≠ .stopped
        rw [hkept]
        exact hphase
      · change ∃ text, intervalText (x w).state.courier.policy.pollInterval = .ok text
        rw [hpolicy]
        exact hshown
  | ends hresult hends =>
      obtain ⟨earlier, a, hcalls, hstopped⟩ := hends.closes
      have hshown' :
          ∃ text, intervalText (x w).state.courier.policy.pollInterval = .ok text := by
        rw [hends.policy_eq]
        exact hshown
      have htells : (x w).state.courier.control.phase = .stopped ↔
          ¬ PortCall.LeaveOpen (before ++ (x w).trace.calls peer w.port.party) := by
        rw [hcalls, ← List.append_assoc, PortCall.leaveOpen_disconnect_iff, not_not]
        exact hstopped
      cases hplace : (x w).result with
      | ok place =>
          have hended := hresult place hplace
          subst hended
          rw [concludeThread_of_ok hplace]
          exact ⟨hends.party_eq, (Control.tells_ended rfl).mpr htells, hshown'⟩
      | error e =>
          rw [concludeThread_of_error hplace]
          have hquiet : Trace.calls peer ((x w).trace ++ [.threadDied e]) w.port.party =
              (x w).trace.calls peer w.port.party := by
            rw [Trace.calls_append]
            exact List.append_nil _
          refine ⟨?_, (Control.tells_ended rfl).mpr ?_, hshown'⟩
          · rw [Trace.party_append]
            exact hends.party_eq
          · rw [hquiet]
            exact htells

variable (peer) (name : Value)

theorem tracked_start :
    Run.Follows (.tracked peer) (start (answeredPort name peer)) := by
  intro w before h
  cases halive : w.courier.control.thread.isAlive with
  | true =>
      rw [start_of_alive _ halive]
      exact Passage.stay (.tracked peer) w before h
  | false =>
      obtain ⟨text, htext⟩ := h.shown
      rw [start_of_idle _ halive htext]
      have hrunning : Phase.running ≠ .stopped := by decide
      exact ⟨rfl, (Control.tells_parked rfl).mpr hrunning, text, htext⟩

theorem tracked_pass
    {deliver : Deliver (AnsweredLine σ) Audience}
    (hdeliver : ∀ l e, Run.Follows (.aloft peer) (deliver l e)) :
    Run.Follows (.tracked peer) (pass (answeredPort name peer) deliver) := by
  intro w before h
  by_cases hparked : w.courier.control.thread = .parked
  · rw [pass_of_parked _ deliver hparked]
    have hphase := (Control.tells_parked hparked).mp h.tells
    let v : World (AnsweredLine σ) Audience :=
      { w with courier := { w.courier with control :=
        { w.courier.control with thread := .running } } }
    have hlands : Lands peer v (advance (answeredPort name peer) deliver v) :=
      lands_advance peer name hdeliver rfl hphase
    exact tracked_concludeThread hlands hphase h.shown before
  · rw [pass_of_not_parked _ deliver hparked]
    exact Passage.stay (.tracked peer) w before h

theorem stopAsked_phase_iff
    (w : World (AnsweredLine σ) Audience) :
    w.stopAsked.courier.control.phase = .stopped ↔ w.courier.control.phase = .stopped := by
  change (if w.courier.control.phase = .running then Phase.stopping
    else w.courier.control.phase) = .stopped ↔ _
  cases w.courier.control.phase <;> simp

/-- That a stop is asked for and logged keeps the track. -/
theorem tracked_stopAsked
    (w : World (AnsweredLine σ) Audience) :
    (Passage.tracked peer).holds w [.log Level.debug "Stopping courier thread..."]
      w.stopAsked := by
  intro before h
  refine ⟨rfl, ?_, h.shown⟩
  change w.stopAsked.courier.control.Tells (before ++ [])
  rw [List.append_nil]
  exact h.tells.congr rfl (stopAsked_phase_iff w)

/-- Work that parks nowhere leaves the thread ended, whether it returns or halts. -/
theorem concludeThread_ended
    {x : Run (World (AnsweredLine σ) Audience) Thread}
    (hresult : ∀ place, (x w).result = .ok place → place = .ended) :
    (concludeThread x w).result = .ok ()
      ∧ (concludeThread x w).state.courier.control.thread = .ended := by
  cases hplace : (x w).result with
  | ok place =>
      rw [concludeThread_of_ok hplace]
      exact ⟨rfl, hresult place hplace⟩
  | error e =>
      rw [concludeThread_of_error hplace]
      exact ⟨rfl, rfl⟩

/-- A parked thread that is asked to stop ends, and the calls tell whether it has stopped. -/
theorem tracked_end
    (hthread : w.courier.control.thread = .parked)
    (h : w.courier.Tracked before) :
    let v : World (AnsweredLine σ) Audience :=
      { w.stopAsked with courier := { w.stopAsked.courier with control :=
        { w.stopAsked.courier.control with thread := .running } } }
    let r := concludeThread (parkOrFinish (answeredPort name peer)) v
    (r.result = .ok () ∧ r.state.courier.control.thread = .ended)
      ∧ r.trace.party peer w.port.party = r.state.port.party
      ∧ r.state.courier.Tracked (before ++ r.trace.calls peer w.port.party) := by
  intro v r
  have hphase : v.courier.control.phase ≠ .stopped :=
    (stopAsked_phase_iff w).not.mpr ((Control.tells_parked hthread).mp h.tells)
  have hends := ends_parkOrFinish (w := v) peer name hphase rfl
  exact ⟨concludeThread_ended hends.2,
    tracked_concludeThread (.ends hends.2 hends.1) hphase h.shown before⟩

theorem tracked_requestStop
    (bounded : Bool) :
    Run.Follows (.tracked peer) (requestStop (answeredPort name peer) bounded) := by
  intro w
  cases hthread : w.courier.control.thread with
  | absent =>
      intro before h
      rw [requestStop_of_absent _ bounded hthread]
      refine ⟨rfl, (Control.tells_absent ?_).mpr ?_, h.shown⟩
      · exact hthread
      · exact (List.append_nil before).trans ((Control.tells_absent hthread).mp h.tells)
  | running =>
      intro before h
      exact absurd hthread (Control.not_running_of_tells h.tells)
  | ended =>
      rw [requestStop_of_ended _ bounded hthread]
      exact Passage.onward _ (tracked_stopAsked peer w)
        (follows_reportEnd (tracked_log _ _) bounded w.stopAsked)
  | parked =>
      cases bounded with
      | true =>
          rw [requestStop_of_parked_bounded _ hthread]
          exact Passage.onward _ (tracked_stopAsked peer w)
            (follows_reportEnd (tracked_log _ _) true w.stopAsked)
      | false =>
          -- While the thread is at work the calls tell nothing; they do again once it has ended.
          intro before h
          obtain ⟨⟨hresult, -⟩, -⟩ := tracked_end peer name hthread h
          rw [requestStop_of_parked _ hthread, Run.bind_of_ok hresult]
          refine Passage.onward (.tracked peer) (fun before h => ?_)
            (follows_reportEnd (tracked_log _ _) false _) before h
          exact (tracked_end peer name hthread h).2

/-- Whatever is asked for beside ticks and events on the caller keeps the track. -/
theorem tracked_perform
    {deliver : Deliver (AnsweredLine σ) Audience}
    (hdeliver : ∀ l e, Run.Follows (.aloft peer) (deliver l e))
    {op : Operation}
    (hop : op.isLockStep = true) :
    Run.Follows (.tracked peer) (perform (answeredPort name peer) deliver op) := by
  have hlisteners (f : Registry Listener → Registry Listener) :
      Run.Follows (.tracked peer) (listeners f) :=
    tracked_change (fun _ => rfl) (fun _ => rfl) fun _ => rfl
  refine Run.Follows.perform (fun f hthread hphase _ => ?_) ?_
  · exact tracked_change (fun c => hthread c.control) (fun c => hphase c.control)
      fun _ => rfl
  cases op with
  | poll =>
      cases hop
  | dispatch e =>
      cases hop
  | subscribe l =>
      exact hlisteners _
  | unsubscribe l =>
      exact hlisteners _
  | unsubscribeAll =>
      exact hlisteners _
  | start =>
      exact tracked_start peer name
  | pass =>
      exact tracked_pass peer name hdeliver
  | stop bounded =>
      exact tracked_requestStop peer name bounded
  | _ =>
      trivial

theorem tracked_step
    {op : Operation}
    (hop : op.isLockStep = true) :
    Run.Follows (.tracked peer) (step (answeredPort name peer) op) := fun w =>
  tracked_perform peer name ((steady_bears name).mild w.audience.depth).follows hop w

/-- A courier that nobody has used yet is tracked, if it was made for whole milliseconds. -/
theorem tracked_create
    {longest : Option Binary64}
    {codec : Codec}
    {ms : Int}
    {limit timeout : Value}
    {unsigned : Bool}
    {c : Courier}
    (hmade : Courier.create longest codec (.int ms) limit timeout unsigned = .ok c) :
    c.Tracked [] := by
  obtain ⟨x, hshown, rfl⟩ := Courier.parts_of_create hmade
  exact ⟨(Control.tells_absent rfl).mpr rfl, hshown⟩

theorem reportEnd_result
    {w : World (AnsweredLine σ) Audience}
    (hthread : w.courier.control.thread = .ended) :
    let r := reportEnd false w
    r.state.courier.control.thread = .ended
      ∧ r.result = if r.state.courier.control.phase = .stopped then .ok true
        else .error (.fault .neverStops) := by
  have hreport : reportEnd false w =
      (if w.courier.control.phase = .stopped then confirmStopped
        else Run.fail .neverStops) w := rfl
  rw [hreport]
  by_cases hstopped : w.courier.control.phase = .stopped
  · rw [if_pos hstopped]
    exact ⟨hthread, (if_pos hstopped).symm⟩
  · rw [if_neg hstopped]
    exact ⟨hthread, (if_neg hstopped).symm⟩

/-- A stop that waits leaves the thread ended, unless there never was one, and reports that the
courier has stopped or would wait for ever. -/
theorem requestStop_result
    (h : w.courier.Tracked before) :
    let r := requestStop (answeredPort name peer) false w
    (r.state.courier.control.thread = .ended
        ∨ r.state.courier.control.thread = .absent ∧ r.state.courier.control.phase = .stopped)
      ∧ r.result = if r.state.courier.control.phase = .stopped then .ok true
        else .error (.fault .neverStops) := by
  cases hthread : w.courier.control.thread with
  | absent =>
      rw [requestStop_of_absent _ false hthread]
      exact ⟨Or.inr ⟨hthread, rfl⟩, rfl⟩
  | running =>
      exact absurd hthread (Control.not_running_of_tells h.tells)
  | ended =>
      rw [requestStop_of_ended _ false hthread]
      obtain ⟨hended, hresult⟩ := reportEnd_result (w := w.stopAsked) hthread
      exact ⟨Or.inl hended, hresult⟩
  | parked =>
      obtain ⟨⟨hok, hended⟩, -⟩ := tracked_end peer name hthread h
      rw [requestStop_of_parked _ hthread, Run.bind_of_ok hok]
      obtain ⟨hstays, hresult⟩ := reportEnd_result hended
      exact ⟨Or.inl hstays, hresult⟩

/-- After a stop that waits the calls tell whether the courier has stopped. -/
theorem stopped_iff_of_requestStop
    (h : w.courier.Tracked before) :
    let r := requestStop (answeredPort name peer) false w
    r.state.courier.control.phase = .stopped ↔
      ¬ PortCall.LeaveOpen (before ++ r.trace.calls peer w.port.party) := by
  intro r
  obtain ⟨-, htracked⟩ := tracked_requestStop peer name false w before h
  obtain ⟨hplace, -⟩ := requestStop_result peer name h
  rcases hplace with hended | ⟨habsent, hstopped⟩
  · exact (Control.tells_ended hended).mp htracked.tells
  · have hnone := (Control.tells_absent habsent).mp htracked.tells
    rw [hnone]
    exact iff_of_true hstopped PortCall.not_leaveOpen_nil

theorem step_stop
    (w : World (AnsweredLine σ) Audience) :
    step (answeredPort name peer) (.stop false) w =
      let q := requestStop (answeredPort name peer) false w
      ⟨q.trace, q.result.map Value.bool, q.state⟩ :=
  Run.bind_give Value.bool (requestStop (answeredPort name peer) false) w

/-- A stop that waits completes unless the last call on the port is a try to close it that fails;
then it would wait for ever, for a thread that is dead and never reported its end. -/
theorem stop_completes_iff
    {longest : Option Binary64}
    {codec : Codec}
    {ms : Int}
    {limit timeout : Value}
    {unsigned : Bool}
    (name : Value)
    (ops : List Operation)
    (hmade : Courier.create longest codec (.int ms) limit timeout unsigned = .ok w.courier)
    (hops : ∀ op ∈ ops, op.isLockStep = true) :
    let port := answeredPort name peer
    let v := reached port ops w
    let r := step port (.stop false) v
    let calls := (chronicle port (ops ++ [.stop false]) w).calls peer w.port.party
    ((r.result = .ok (.bool true) ∧ r.state.courier.control.phase = .stopped) ↔
        ¬ PortCall.LeaveOpen calls)
      ∧ (PortCall.LeaveOpen calls → r.result = .error (.fault .neverStops))
      ∧ (v.courier.control.thread = .ended →
        (v.courier.control.phase = .stopped ↔
          ¬ PortCall.LeaveOpen ((chronicle port ops w).calls peer w.port.party))) := by
  intro port v r calls
  have hfollows : ∀ op ∈ ops, Run.Follows (.tracked peer) (step port op) :=
    fun op hop => tracked_step peer name (hops op hop)
  obtain ⟨hparty, htracked⟩ := holds_chronicle hfollows w [] (tracked_create hmade)
  rw [List.nil_append] at htracked
  have hr : r = ⟨(requestStop port false v).trace,
      (requestStop port false v).result.map Value.bool, (requestStop port false v).state⟩ :=
    step_stop peer name v
  have hcalls : calls = (chronicle port ops w).calls peer w.port.party ++
      (requestStop port false v).trace.calls peer v.port.party := by
    have hsplit : chronicle port (ops ++ [.stop false]) w =
        chronicle port ops w ++ (r.trace ++ []) := chronicle_append port ops [.stop false] w
    change Trace.calls peer (chronicle port (ops ++ [.stop false]) w) w.port.party = _
    rw [hsplit, List.append_nil, Trace.calls_append, hparty, hr]
  have hstopped : (requestStop port false v).state.courier.control.phase = .stopped ↔
      ¬ PortCall.LeaveOpen calls := by
    rw [hcalls]
    exact stopped_iff_of_requestStop peer name htracked
  obtain ⟨-, hresult⟩ := requestStop_result peer name htracked
  rw [hr]
  refine ⟨⟨?_, ?_⟩, ?_, fun hended => (Control.tells_ended hended).mp htracked.tells⟩
  · rintro ⟨-, hphase⟩
    exact hstopped.mp hphase
  · intro hclosed
    have hphase := hstopped.mpr hclosed
    rw [if_pos hphase] at hresult
    exact ⟨congrArg (Except.map Value.bool) hresult, hphase⟩
  · intro hopen
    have hphase := mt hstopped.mp (not_not.mpr hopen)
    rw [if_neg hphase] at hresult
    exact congrArg (Except.map Value.bool) hresult

/-- After a start and a pass whose poll has no reply, a stop that waits completes. -/
theorem stop_completes_unused :
    let port := answeredPort .null (.steady Responder.ofOutcomes)
    let w := unused [.ok [], .ok [], .error (.noReply "late")] []
    (step port (.stop false) (reached port [.start, .pass] w)).result = .ok (.bool true) := by
  intro port w
  have hmade : Courier.create _ _ _ _ _ _ = .ok w.courier := create_unused _
  have hops : ∀ op ∈ [Operation.start, .pass], op.isLockStep = true := by decide
  have hcalls :
      (chronicle port ([.start, .pass] ++ [.stop false]) w).calls
        (Peer.steady Responder.ofOutcomes) w.port.party =
      [(.connect, .bytes []), (.send [2, 8, 16, 127, 16, 0, 3, 119], .bytes []),
        (.receive 11 .null, .halts (.fault (.noReply "late")))] ++ [(.disconnect, .nothing)] := by
    decide +kernel
  refine ((stop_completes_iff (.steady Responder.ofOutcomes) .null _ hmade hops).1.mpr ?_).1
  rw [hcalls, PortCall.leaveOpen_disconnect_iff]
  exact fun h => h rfl

/-- A port that cannot be closed leaves a stop waiting for a thread that is dead. -/
theorem stop_never_completes_unused :
    let port := answeredPort .null (.steady Responder.ofOutcomes)
    let w := unused [.error (.device .runtime "boom")] []
    let r := step port (.stop false) (reached port [.start] w)
    r.result = .error (.fault .neverStops)
      ∧ r.state.courier.control.thread = .ended
      ∧ r.state.courier.control.phase = .stopping := by
  exact ⟨rfl, rfl, rfl⟩

end World

end AcceptorHost
