import AcceptorHost.Proofs.LoopLaws
import AcceptorHost.Proofs.LoopState
import AcceptorHost.Proofs.OperationLaws
import AcceptorHost.Proofs.Reactions

/-!
# Courteous listeners

A courteous listener fails only in faults and asks for nothing that would tick, close
the port or tamper with the watched listener while a tick is under way: `isAside` and
`spares` say which operations are left.  Where ticks run only on the loop's thread, a
listener may even ask for a stop without a bound, as nothing happens before it returns.
Courteous listeners are discreet, however deep their calls are nested.
-/

namespace AcceptorHost

namespace Operation

/-- An operation does not tick and does not close the port; `direct` says that ticks
run on callers too, beside a loop that may be parked. -/
def isAside (direct : Bool) : Operation → Bool
  | .poll | .pass => false
  | .stop false => !direct
  | _ => true

/-- An operation tells a listener nothing and leaves it the only one with its name. -/
def spares (who : Listener) : Operation → Bool
  | .subscribe l => l.name != who.name || who == l
  | .unsubscribe l => !(who == l)
  | .unsubscribeAll | .dispatch _ => false
  | _ => true

end Operation

/-- A reaction does not disturb a tick. -/
def Reaction.isCourteous (direct : Bool) (who : Option Listener) : Reaction → Bool
  | .halts h => h.isFault
  | .performs op => op.isAside direct && who.all op.spares

/-- A listener is registered, and no other one has its name. -/
def Registry.Attends (who : Listener) (r : Registry Listener) : Prop :=
  (r.listeners.filter fun l => l.name = who.name) = [who]

namespace Registry

variable {who : Listener} {r : Registry Listener}

theorem hearers_of_attends
    (h : r.Attends who) :
    r.hearers who.name = 1 := by
  unfold hearers
  rw [List.countP_eq_length_filter]
  exact congrArg List.length h

theorem attends_subscribe
    {l : Listener}
    (hl : l.name ≠ who.name ∨ (who == l) = true)
    (h : r.Attends who) :
    (r.subscribe l).Attends who := by
  unfold subscribe
  split
  · exact h
  · rename_i hnew
    have hmem : who ∈ r.listeners := by
      have hself : who ∈ r.listeners.filter fun l => l.name = who.name := by
        rw [h]
        exact List.mem_cons_self
      exact (List.mem_filter.mp hself).1
    rcases hl with hname | hsame
    · unfold Attends at h ⊢
      rw [List.filter_append, h]
      simp [hname]
    · exact absurd (List.any_eq_true.mpr ⟨who, hmem, hsame⟩) hnew

theorem attends_unsubscribe
    {l : Listener}
    (hl : (who == l) = false)
    (h : r.Attends who) :
    (r.unsubscribe l).Attends who := by
  unfold Attends at h ⊢
  have hswap :
      (r.unsubscribe l).listeners.filter (fun m => m.name = who.name) =
        (r.listeners.filter fun m => m.name = who.name).filter fun m => !(m == l) := by
    simp only [unsubscribe, List.filter_filter, Bool.and_comm]
  rw [hswap, h]
  simp [hl]

end Registry

namespace Vantage

variable {σ : Type}

/-- A listener is attended to, and ticks run where they may. -/
def InOrder (who : Option Listener) (direct : Bool) (t : Thread) (r : Registry Listener) :
    Prop :=
  (∀ l, who = some l → r.Attends l) ∧ (direct = true ∨ t = .running)

/-- The vantage point over courteous listeners. -/
def courteous (peer : Peer σ) (who : Option Listener) (direct : Bool) :
    Vantage σ Audience where
  peer := peer
  watch := who.map Listener.name
  orderly := fun t r a => InOrder who direct t r ∧ a.Plans (Reaction.isCourteous direct who)

variable (peer : Peer σ) (who : Option Listener) (direct : Bool)

/-- Nothing is left along the passage and the desk stays as it is. -/
def silence : Passage (World (AnsweredLine σ) Audience) where
  holds w t v :=
    t.acts peer (who.map Listener.name) w.port.party = []
      ∧ t.party peer w.port.party = v.port.party
      ∧ v.desk = w.desk
  stay _ := ⟨rfl, rfl, rfl⟩
  onward := by
    intro w t v u x h k
    obtain ⟨hacts, hparty, hdesk⟩ := h
    obtain ⟨kacts, kparty, kdesk⟩ := k
    refine ⟨?_, ?_, kdesk.trans hdesk⟩
    · rw [Trace.acts_append, hacts, hparty, kacts, List.append_nil]
    · rw [Trace.party_append, hparty, kparty]

variable {peer who direct} in
theorem silence_unaudited :
    (silence peer who).Unaudited := fun _ _ => ⟨rfl, rfl, rfl⟩

/-- The silence of courteous listeners. -/
abbrev hush : Passage (World (AnsweredLine σ) Audience) :=
  (silence peer who).under
    (World.Attended (fun c => InOrder who direct c.control.thread c.listeners)
      (Reaction.isCourteous direct who))

variable {peer who direct}

theorem hush_emit
    {e : Entry}
    (hacts : ∀ s, e.acts peer (who.map Listener.name) s = [])
    (hparty : ∀ s, e.party peer s = s) :
    Run.Follows (hush peer who direct) (Run.emit e) := by
  intro w hw
  refine ⟨⟨?_, hparty _, rfl⟩, hw⟩
  change e.acts _ _ _ ++ [] = []
  rw [hacts, List.append_nil]

theorem hush_log
    (level : Int)
    (text : String) :
    Run.Follows (hush peer who direct) (Run.log level text) :=
  hush_emit (fun _ => rfl) fun _ => rfl

theorem hush_acted
    (l : String)
    (outcome : Except Halt Value) :
    Run.Follows (hush peer who direct) (Run.emit (.acted l outcome)) :=
  hush_emit (fun _ => rfl) fun _ => rfl

theorem hush_heard
    (hnobody : who = none)
    (l : String)
    (e : Event) :
    Run.Follows (hush peer who direct) (Run.emit (.heard l e)) := by
  subst hnobody
  exact hush_emit (fun _ => rfl) fun _ => rfl

theorem hush_control
    {f : Control → Control}
    (hf : direct = true ∨ ∀ c, (f c).thread = c.thread) :
    Run.Follows (hush peer who direct) (World.control f) := by
  intro w hw
  refine ⟨⟨rfl, rfl, rfl⟩, ⟨hw.1.1, ?_⟩, hw.2⟩
  rcases hf with hdirect | hthread
  · exact Or.inl hdirect
  · rcases hw.1.2 with hdirect | hrunning
    · exact Or.inl hdirect
    · exact Or.inr ((hthread _).trans hrunning)

theorem hush_listeners
    {f : Registry Listener → Registry Listener}
    (hf : ∀ l, who = some l → ∀ r : Registry Listener, r.Attends l → (f r).Attends l) :
    Run.Follows (hush peer who direct) (World.listeners f) := by
  intro w hw
  exact ⟨⟨rfl, rfl, rfl⟩, ⟨fun l hl => hf l hl _ (hw.1.1 l hl), hw.1.2⟩, hw.2⟩

theorem hush_loose :
    (hush peer who true).Loose :=
  ⟨fun level text _ => hush_log level text,
    fun _ => hush_emit (fun _ => rfl) fun _ => rfl,
    fun _ => hush_control (Or.inl rfl)⟩

theorem hush_start
    (port : Port (AnsweredLine σ)) :
    Run.Follows (hush peer who direct) (World.start port) := by
  cases direct with
  | false =>
      intro w hw
      have hrunning : w.courier.control.thread = .running := by
        simpa [InOrder] using hw.1.2
      rw [World.start_of_running port hrunning]
      exact ⟨⟨rfl, rfl, rfl⟩, hw⟩
  | true =>
      exact hush_loose.start

theorem hush_requestStop
    (port : Port (AnsweredLine σ))
    {bounded : Bool}
    (haside : (Operation.stop bounded).isAside direct = true) :
    Run.Follows (hush peer who direct) (World.requestStop port bounded) := by
  cases direct with
  | false =>
      intro w hw
      have hrunning : w.courier.control.thread = .running := by
        simpa [InOrder] using hw.1.2
      rw [World.requestStop_of_running port bounded hrunning]
      exact ⟨⟨rfl, rfl, rfl⟩, hw⟩
  | true =>
      refine hush_loose.requestStop fun hwaits => ?_
      subst hwaits
      cases haside

/-- What listeners may ask for is done in silence, if a dispatch is. -/
theorem hush_perform
    (port : Port (AnsweredLine σ))
    {deliver : Deliver (AnsweredLine σ) Audience}
    (hdeliver : who = none → ∀ l e, Run.Follows (hush peer who direct) (deliver l e))
    {op : Operation}
    (hop : (Reaction.performs op).isCourteous direct who = true) :
    Run.Follows (hush peer who direct) (World.perform port deliver op) := by
  obtain ⟨haside, hspares⟩ := Bool.and_eq_true_iff.mp hop
  refine Run.Follows.perform (fun f hthread _ _ => hush_control (Or.inr hthread)) ?_
  cases op with
  | poll =>
      cases haside
  | pass =>
      cases haside
  | subscribe l =>
      refine hush_listeners ?_
      rintro m rfl r hr
      refine Registry.attends_subscribe ?_ hr
      simpa [Operation.spares] using hspares
  | unsubscribe l =>
      refine hush_listeners ?_
      rintro m rfl r hr
      refine Registry.attends_unsubscribe ?_ hr
      simpa [Operation.spares] using hspares
  | unsubscribeAll =>
      refine hush_listeners ?_
      rintro m rfl
      cases hspares
  | dispatch e =>
      have hnobody : who = none := by
        cases who with
        | none =>
            rfl
        | some l =>
            cases hspares
      exact Run.Follows.fire (hdeliver hnobody)
        (fun _ _ => hush_emit (fun _ => rfl) fun _ => rfl) e
  | start =>
      exact hush_start port
  | stop bounded =>
      exact hush_requestStop port haside
  | _ =>
      trivial

/-- However deep the calls of listeners are nested, what they may ask for is done in silence. -/
theorem hush_performNested
    (port : Port (AnsweredLine σ)) :
    ∀ (depth : Nat) (op : Operation),
      (Reaction.performs op).isCourteous direct who = true →
      Run.Follows (hush peer who direct) (World.performNested port depth op)
  | 0, _, hop => hush_perform port (fun hnobody l e => hush_heard hnobody l.name e) hop
  | depth + 1, _, hop => by
      refine hush_perform port (fun hnobody l e => ?_) hop
      exact World.follows_hear silence_unaudited (hush_heard hnobody) hush_acted
        (hush_performNested port depth) l e

/-- A courteous listener hears an event in silence; what it halts with is a fault. -/
theorem leaves_hear
    (port : Port (AnsweredLine σ))
    (depth : Nat)
    (l : Listener)
    (e : Event)
    {w : World (AnsweredLine σ) Audience}
    (hw : (courteous peer who direct).Orderly w) :
    ∃ result : Except Fault Unit,
      (courteous peer who direct).Leaves
        (World.hear (World.performNested port depth) l e) w
        ((courteous peer who direct).hearing l.name e) (result.mapError .fault) w.desk := by
  obtain ⟨⟨hacts, hparty, hdesk⟩, horder⟩ :=
    World.holds_reaction silence_unaudited hush_acted (hush_performNested port depth) l.name w hw
  have hresult :
      ∃ result : Except Fault Unit,
        (World.hear (World.performNested port depth) l e w).result = result.mapError .fault := by
    cases hr : (World.hear (World.performNested port depth) l e w).result with
    | ok u =>
        exact ⟨.ok u, rfl⟩
    | error h =>
        have hfault := World.hear_halts hw.2 hr
        cases h with
        | fault f =>
            exact ⟨.error f, rfl⟩
        | exit status =>
            cases hfault
  obtain ⟨result, hresult⟩ := hresult
  refine ⟨result, ?_, ?_, hresult, ?_, ?_⟩
  · rw [World.hear_eq]
    have happend := congrArg ((courteous peer who direct).hearing l.name e ++ ·) hacts
    exact happend.trans (List.append_nil _)
  · rw [World.hear_eq]
    exact hparty
  · rw [World.hear_eq]
    exact hdesk
  · rw [World.hear_eq]
    exact horder

/-- What a courteous listener halts with is contained. -/
theorem leaves_contained
    (port : Port (AnsweredLine σ))
    (depth : Nat)
    (l : Listener)
    (e : Event)
    {w : World (AnsweredLine σ) Audience}
    (hw : (courteous peer who direct).Orderly w) :
    (courteous peer who direct).Leaves
      (Run.contained Listener.name (World.hear (World.performNested port depth)) e l) w
      ((courteous peer who direct).hearing l.name e) (.ok ()) w.desk := by
  obtain ⟨result, hheard⟩ := leaves_hear port depth l e hw
  cases result with
  | ok u =>
      exact hheard.handle
  | error f =>
      have hnote :
          (courteous peer who direct).Brings (Run.emit (.listenerFailed l.name e)) w.desk
            [] (.ok ()) w.desk :=
        fun _ hv hd => ⟨rfl, rfl, rfl, hd, hv⟩
      rw [← List.append_nil ((courteous peer who direct).hearing l.name e)]
      exact hheard.handle_error (hnote _ hheard.orderly hheard.desk_eq)

/-- Courteous listeners are discreet, however deep their calls are nested. -/
theorem discreet_hear
    (port : Port (AnsweredLine σ))
    (depth : Nat) :
    (courteous peer who direct).Discreet (World.hear (World.performNested port depth)) := by
  constructor
  · intro t r a hw n hn
    cases who with
    | none =>
        cases hn
    | some l =>
        cases hn
        exact Registry.hearers_of_attends (hw.1.1 l rfl)
  · intro l e w hw
    exact leaves_contained port depth l e hw

end Vantage

end AcceptorHost
