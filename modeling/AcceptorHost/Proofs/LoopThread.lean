import AcceptorHost.Proofs.NestedOperations
import AcceptorHost.Proofs.TickLaws

/-!
# On the loop's thread

What happens while the loop's thread is at work happens on that thread.  However deep
the calls of listeners are nested, and whatever they ask for, it stays at work; the
phase and the policy stay as they are, for a start and a pass on that thread do nothing
and a stop does not wait.
-/

namespace AcceptorHost

/-- Along a run the party answers the calls, and the phase and the policy stay. -/
def Passage.steady
    {σ : Type}
    (peer : Peer σ) :
    Passage (World (AnsweredLine σ) Audience) where
  holds w t v :=
    t.party peer w.port.party = v.port.party
      ∧ v.courier.control.phase = w.courier.control.phase
      ∧ v.courier.policy = w.courier.policy
  stay w := ⟨rfl, rfl, rfl⟩
  onward := by
    intro w t v u x h k
    obtain ⟨hparty, hphase, hpolicy⟩ := h
    obtain ⟨kparty, kphase, kpolicy⟩ := k
    refine ⟨?_, kphase.trans hphase, kpolicy.trans hpolicy⟩
    rw [Trace.party_append, hparty, kparty]

/-- A run on the loop's thread is steady and leaves the thread at work. -/
abbrev Passage.aloft
    {σ : Type}
    (peer : Peer σ) :
    Passage (World (AnsweredLine σ) Audience) :=
  (steady peer).amid (fun c => c.control.thread = .running) fun _ => true

namespace World

variable {σ : Type} {peer : Peer σ}

/-- Whatever the listeners plan, a courier whose thread is at work is aloft. -/
theorem attended_of_running
    {w : World (AnsweredLine σ) Audience}
    (hw : w.courier.control.thread = .running) :
    Attended (fun c => c.control.thread = .running) (fun _ => true) w :=
  ⟨hw, fun _ _ _ _ _ _ => rfl⟩

theorem aloft_emit
    {e : Entry}
    (he : e.isCall = false) :
    Run.Follows (.aloft peer) (Run.emit e) := by
  intro w hw
  cases e with
  | port c =>
      cases he
  | _ =>
      exact ⟨⟨rfl, rfl, rfl⟩, hw⟩

theorem aloft_change
    {f : Courier → Courier}
    (hthread : ∀ c, (f c).control.thread = c.control.thread)
    (hphase : ∀ c, (f c).control.phase = c.control.phase)
    (hpolicy : ∀ c, (f c).policy = c.policy) :
    Run.Follows (.aloft peer) (change f) := fun _ hw =>
  ⟨⟨rfl, hphase _, hpolicy _⟩, (hthread _).trans hw.1, hw.2⟩

/-- A call on the port is steady. -/
theorem steady_asks
    {α : Type}
    {c : PortCall}
    {x : Run (World (AnsweredLine σ) Audience) α}
    (hx : Asks peer c x) :
    Run.Follows (.steady peer) x := by
  intro w
  refine ⟨?_, ?_, ?_⟩
  · rw [hx.trace_eq, hx.party_eq]
    rfl
  · rw [hx.courier_eq]
  · rw [hx.courier_eq]

theorem aloft_asks
    {α : Type}
    {c : PortCall}
    {x : Run (World (AnsweredLine σ) Audience) α}
    (hx : Asks peer c x) :
    Run.Follows (.aloft peer) x := fun w hw =>
  ⟨steady_asks hx w, hw.of_eq (hx.courier_eq w) (hx.audience_eq w)⟩

variable (name : Value)

/-- A tick may happen on the loop's thread if its listeners may be told there. -/
theorem permits_aloft
    {deliver : Deliver (AnsweredLine σ) Audience}
    (hdeliver : ∀ l e, Run.Follows (.aloft peer) (deliver l e)) :
    Passage.Permits (.aloft peer) (answeredPort name peer) deliver where
  log _ _ _ := aloft_emit rfl
  failed _ _ := aloft_emit rfl
  slept _ := aloft_emit rfl
  mailbox _ := aloft_change (fun _ => rfl) (fun _ => rfl) fun _ => rfl
  turned := aloft_change (fun _ => rfl) (fun _ => rfl) fun _ => rfl
  record _ := aloft_change (fun _ => rfl) (fun _ => rfl) fun _ => rfl
  connect := aloft_asks (asks_connect name peer)
  disconnect := aloft_asks (asks_disconnect name peer)
  discard := aloft_asks (asks_discard name peer)
  send bs := aloft_asks (asks_send name peer bs)
  receive n timeout := aloft_asks (asks_receive name peer n timeout)
  delivered := hdeliver

/-- Whatever is asked for on the loop's thread is steady. -/
theorem steady_bears :
    (Passage.steady peer).Bears (fun c => c.control.thread = .running) (fun _ => true)
      (answeredPort name peer) where
  emit _ he _ := aloft_emit he
  unaudited _ _ := ⟨rfl, rfl, rfl⟩
  perform := by
    intro deliver hdeliver op _
    have hpermits := permits_aloft name hdeliver.follows
    refine Passage.perform_of_running (fun w hw => hw.1) (fun _ _ => aloft_emit rfl)
      (fun f hthread hphase => ?_)
      (fun f => aloft_change (fun _ => rfl) (fun _ => rfl) fun _ => rfl) hpermits.fire
      fun _ => hpermits.tick
    exact aloft_change (fun c => hthread c.control) (fun c => hphase c.control) fun _ => rfl

end World

end AcceptorHost
