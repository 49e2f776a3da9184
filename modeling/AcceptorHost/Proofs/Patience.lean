import AcceptorHost.Proofs.Courtesy
import AcceptorHost.Proofs.Endings
import AcceptorHost.Proofs.ExpectedCommands

/-!
# Patient listeners

A patient listener is tame: it fails only in faults and asks for no tick.  Beyond that it
may do as it likes, even wait for the loop to stop, which closes the port.  So what happens
aside from a tick closes the port at most, and only with the end of the loop; it tells
nothing but the events that listeners ask for themselves, and leaves the policy, the codec
and the record as they are.
-/

namespace AcceptorHost

/-- A reaction tells only events of its own and leaves a listener the only one with its name. -/
def Reaction.minds (own : Event → Bool) (who : Option Listener) : Reaction → Bool
  | .performs (.dispatch e) => own e
  | .performs op => who.all op.spares
  | .halts _ => true

/-- A tame reaction that minds its own events and a watched listener. -/
def Reaction.isPatient (own : Event → Bool) (who : Option Listener) (r : Reaction) : Bool :=
  r.isTame && r.minds own who

/-- An entry is no call and no rest, and tells only own events. -/
def Entry.isAside (own : Event → Bool) : Entry → Bool
  | .port _ | .slept _ => false
  | .heard _ event => own event
  | _ => true

/-- An act is a call or a rest of the acceptor. -/
def Act.isWork : Act → Bool
  | .called _ _ | .slept _ => true
  | _ => false

/-- An act closes the port, or tries to. -/
def Act.closes : Act → Bool
  | .called .disconnect _ => true
  | _ => false

/-- The calls of a trace and the rests of the acceptor, in their order. -/
def Trace.work {σ : Type} (respond : Responder PortCall σ) (t : Trace) (s : σ) : List Act :=
  (t.acts respond none s).filter Act.isWork

theorem Trace.work_append
    {σ : Type}
    (respond : Responder PortCall σ)
    (t u : Trace)
    (s : σ) :
    (t ++ u).work respond s = t.work respond s ++ u.work respond (t.party respond s) := by
  unfold work
  rw [acts_append, List.filter_append]

/-- What happens aside from a tick: at most the port is closed, and own events are told. -/
structure Passage.Idles {σ : Type} (peer : Peer σ) (own : Event → Bool)
    (w : World (AnsweredLine σ) Audience) (t : Trace) (v : World (AnsweredLine σ) Audience) :
    Prop where
  policy_eq : v.courier.policy = w.courier.policy
  codec_eq : v.courier.codec = w.courier.codec
  record_eq : v.courier.record = w.courier.record
  line_eq : t.line peer w.port = v.port
  closes : ∀ x ∈ t.work peer w.port.party, x.closes = true
  heard_own : ∀ l e, .heard l e ∈ t → own e = true

theorem Passage.Idles.party_eq
    {σ : Type}
    {peer : Peer σ}
    {own : Event → Bool}
    {w v : World (AnsweredLine σ) Audience}
    {t : Trace}
    (h : Idles peer own w t v) :
    t.party peer w.port.party = v.port.party := by
  rw [← Trace.party_line, h.line_eq]

/-- The passage of what happens aside from a tick. -/
def Passage.idle
    {σ : Type}
    (peer : Peer σ)
    (own : Event → Bool) :
    Passage (World (AnsweredLine σ) Audience) where
  holds := Idles peer own
  stay w := by
    refine ⟨rfl, rfl, rfl, rfl, ?_, ?_⟩
    · intro x hx
      cases hx
    · intro l e he
      cases he
  onward := by
    intro w t v u x h k
    refine ⟨k.policy_eq.trans h.policy_eq, k.codec_eq.trans h.codec_eq,
      k.record_eq.trans h.record_eq, ?_, ?_, ?_⟩
    · rw [Trace.line_append, h.line_eq, k.line_eq]
    · intro y hy
      rw [Trace.work_append, h.party_eq] at hy
      rcases List.mem_append.mp hy with hfirst | hsecond
      · exact h.closes y hfirst
      · exact k.closes y hsecond
    · intro l e he
      rcases List.mem_append.mp he with hfirst | hsecond
      · exact h.heard_own l e hfirst
      · exact k.heard_own l e hsecond

/-- Along a trace that tells of no end of the loop, no work is done and the line stays. -/
def Passage.Rests {σ : Type} (peer : Peer σ)
    (w : World (AnsweredLine σ) Audience) (t : Trace) (v : World (AnsweredLine σ) Audience) :
    Prop :=
  (∀ e ∈ t, e.endsLoop = false) → t.work peer w.port.party = [] ∧ v.port = w.port

/-- The passage of what patient listeners do aside from a tick. -/
def Passage.aside
    {σ : Type}
    (peer : Peer σ)
    (own : Event → Bool) :
    Passage (World (AnsweredLine σ) Audience) where
  holds w t v := Idles peer own w t v ∧ Rests peer w t v
  stay w := ⟨(idle peer own).stay w, fun _ => ⟨rfl, rfl⟩⟩
  onward := by
    rintro w t v u x ⟨hidle, hrest⟩ ⟨kidle, krest⟩
    refine ⟨(idle peer own).onward hidle kidle, ?_⟩
    intro hends
    obtain ⟨hwork, hport⟩ := hrest fun e he => hends e (List.mem_append_left _ he)
    obtain ⟨kwork, kport⟩ := krest fun e he => hends e (List.mem_append_right _ he)
    refine ⟨?_, kport.trans hport⟩
    rw [Trace.work_append, hwork, hidle.party_eq, kwork, List.append_nil]

/-- What patient listeners do aside from a tick, while a listener stays attended to. -/
abbrev Passage.patience
    {σ : Type}
    (peer : Peer σ)
    (own : Event → Bool)
    (who : Option Listener) :
    Passage (World (AnsweredLine σ) Audience) :=
  (aside peer own).under
    (World.Attended (fun c => ∀ l, who = some l → c.listeners.Attends l)
      (Reaction.isPatient own who))

/-- What a listener heard was told it. -/
theorem Trace.heard_of_mem_heardBy
    {t : Trace}
    {name : String}
    {e : Event}
    (h : e ∈ t.heardBy name) :
    .heard name e ∈ t := by
  obtain ⟨entry, hentry, he⟩ := List.mem_filterMap.mp h
  cases entry with
  | heard l event =>
      by_cases hl : l = name
      · simp only [hl, if_true, Option.some.injEq] at he
        rwa [hl, he] at hentry
      · simp [hl] at he
  | _ =>
      cases he

namespace World

variable {σ : Type} {peer : Peer σ} {own : Event → Bool} {who : Option Listener}

/-- The listeners of a world are patient, and the watched one is attended to. -/
abbrev Patient (own : Event → Bool) (who : Option Listener)
    (w : World (AnsweredLine σ) Audience) : Prop :=
  Attended (fun c => ∀ l, who = some l → c.listeners.Attends l) (Reaction.isPatient own who) w

theorem aside_unaudited :
    (Passage.aside peer own).Unaudited := by
  intro w a
  obtain ⟨hidle, hrest⟩ := (Passage.aside peer own).stay w
  exact ⟨⟨rfl, rfl, rfl, hidle.line_eq, hidle.closes, hidle.heard_own⟩, hrest⟩

variable (peer) in
/-- An entry that is no call and no rest is no work and leaves the line alone. -/
theorem work_of_isAside
    {e : Entry}
    (h : e.isAside own = true)
    (s : AnsweredLine σ) :
    e.line peer s = s ∧ Trace.work peer [e] s.party = [] := by
  cases e with
  | port c =>
      cases h
  | slept x =>
      cases h
  | _ =>
      exact ⟨rfl, rfl⟩

theorem idle_emit
    {e : Entry}
    (h : e.isAside own = true) :
    Run.Follows (.idle peer own) (Run.emit e) := by
  intro w
  obtain ⟨hline, hwork⟩ := work_of_isAside peer h w.port
  refine ⟨rfl, rfl, rfl, hline, ?_, ?_⟩
  · intro x hx
    change x ∈ Trace.work peer [e] w.port.party at hx
    rw [hwork] at hx
    cases hx
  · intro l event hevent
    rw [← List.mem_singleton.mp hevent] at h
    exact h

theorem aside_emit
    {e : Entry}
    (h : e.isAside own = true) :
    Run.Follows (.aside peer own) (Run.emit e) := by
  intro w
  exact ⟨idle_emit h w, fun _ => ⟨(work_of_isAside peer h w.port).2, rfl⟩⟩

theorem patience_emit
    {e : Entry}
    (h : e.isAside own = true) :
    Run.Follows (.patience peer own who) (Run.emit e) := fun w hw => ⟨aside_emit h w, hw⟩

/-- What a courier's owner may write of its control state and its listeners. -/
theorem patience_change
    {f : Courier → Courier}
    (hpolicy : ∀ c, (f c).policy = c.policy)
    (hcodec : ∀ c, (f c).codec = c.codec)
    (hrecord : ∀ c, (f c).record = c.record)
    (hattends : ∀ l, who = some l → ∀ c, c.listeners.Attends l → (f c).listeners.Attends l) :
    Run.Follows (.patience peer own who) (World.change f) := by
  intro w hw
  obtain ⟨hidle, hrest⟩ := (Passage.aside peer own).stay w
  refine ⟨⟨⟨hpolicy _, hcodec _, hrecord _, rfl, hidle.closes, hidle.heard_own⟩, hrest⟩, ?_⟩
  exact ⟨fun l hl => hattends l hl _ (hw.1 l hl), hw.2⟩

theorem patience_control
    (f : Control → Control) :
    Run.Follows (.patience peer own who) (World.control f) :=
  patience_change (fun _ => rfl) (fun _ => rfl) (fun _ => rfl) fun _ _ _ h => h

theorem patience_loose :
    (Passage.patience peer own who).Loose :=
  ⟨fun _ _ _ => patience_emit rfl, fun _ => patience_emit rfl, patience_control⟩

/-! ## The end of the loop -/

section Ending

variable (name : Value)

theorem idle_disconnect :
    Run.Follows (.idle peer own)
      (onPort (answeredPort name peer).disconnect :
        Run (World (AnsweredLine σ) Audience) Unit) := by
  intro w
  have hasks := asks_disconnect (τ := Audience) name peer
  refine ⟨?_, ?_, ?_, ?_, ?_, ?_⟩
  · rw [hasks.courier_eq]
  · rw [hasks.courier_eq]
  · rw [hasks.courier_eq]
  · rw [hasks.trace_eq, hasks.line_eq]
    rfl
  · intro x hx
    rw [hasks.trace_eq] at hx
    rw [List.mem_singleton.mp hx]
    rfl
  · intro l e he
    rw [hasks.trace_eq] at he
    cases List.mem_singleton.mp he

/-- Closing the port is idle, and listeners stay as patient as they are. -/
theorem idling_disconnect :
    Run.Follows ((Passage.idle peer own).under (Patient own who))
      (onPort (answeredPort name peer).disconnect) := by
  intro w hw
  have hasks := asks_disconnect (τ := Audience) name peer
  exact ⟨idle_disconnect name w, Attended.of_eq hw (hasks.courier_eq w) (hasks.audience_eq w)⟩

omit name in
theorem idling_of_patience
    {α : Type}
    {x : Run (World (AnsweredLine σ) Audience) α}
    (h : Run.Follows (.patience peer own who) x) :
    Run.Follows ((Passage.idle peer own).under (Patient own who)) x :=
  fun w hw => ⟨(h w hw).1.1, (h w hw).2⟩

omit name in
theorem idling_loose :
    ((Passage.idle (σ := σ) peer own).under (Patient own who)).Loose :=
  ⟨fun _ _ h => idling_of_patience (patience_loose.log _ _ h),
    fun _ => idling_of_patience (patience_loose.died _),
    fun _ => idling_of_patience (patience_control _)⟩

/-- A thread that finishes its loop may close the port, for it tells of its end. -/
theorem patience_concludes :
    (Passage.patience peer own who).Concludes (answeredPort name peer) where
  toLoose := patience_loose
  waited _ := patience_emit rfl
  finished := by
    intro next hnext w hw
    have hidling : Run.Follows ((Passage.idle peer own).under (Patient own who))
        (concludeThread (finish (answeredPort name peer) >>= fun _ => next)) :=
      idling_loose.concludeThread
        ((idling_loose.finish (idling_disconnect name)).bind fun _ => idling_of_patience hnext)
    obtain ⟨hidle, hafter⟩ := hidling w hw
    refine ⟨⟨hidle, fun hends => ?_⟩, hafter⟩
    obtain ⟨e, he, hend⟩ := List.any_eq_true.mp
      (concludeThread_finish_endsLoop (answeredPort name peer) next w)
    rw [hends e he] at hend
    cases hend

end Ending

/-! ## Operations -/

section Operations

variable (name : Value)

theorem patience_fire
    {deliver : Deliver (AnsweredLine σ) Audience}
    {e : Event}
    (hdeliver : ∀ l, Run.Follows (.patience peer own who) (deliver l e)) :
    Run.Follows (.patience peer own who) (fire deliver e) :=
  (Run.Follows.look _).bind fun ls =>
    Run.Follows.dispatch hdeliver (fun _ => patience_emit rfl) ls

/-- What a patient listener asks for is done aside, if own events are told aside. -/
theorem patience_perform
    {deliver : Deliver (AnsweredLine σ) Audience}
    (hdeliver : ∀ l e, own e = true → Run.Follows (.patience peer own who) (deliver l e))
    {op : Operation}
    (hop : (Reaction.performs op).isPatient own who = true) :
    Run.Follows (.patience peer own who) (perform (answeredPort name peer) deliver op) := by
  obtain ⟨htame, hminds⟩ := Bool.and_eq_true_iff.mp hop
  have hlisteners (f : Registry Listener → Registry Listener)
      (hf : ∀ l, who = some l → ∀ r : Registry Listener, r.Attends l → (f r).Attends l) :
      Run.Follows (.patience peer own who) (listeners f) :=
    patience_change (fun _ => rfl) (fun _ => rfl) (fun _ => rfl) fun l hl c => hf l hl c.listeners
  refine Run.Follows.perform (fun f _ _ _ => patience_control f) ?_
  cases op with
  | poll =>
      cases htame
  | pass =>
      cases htame
  | subscribe l =>
      refine hlisteners _ ?_
      rintro m rfl r hr
      refine Registry.attends_subscribe ?_ hr
      simpa [Reaction.minds, Operation.spares] using hminds
  | unsubscribe l =>
      refine hlisteners _ ?_
      rintro m rfl r hr
      refine Registry.attends_unsubscribe ?_ hr
      simpa [Reaction.minds, Operation.spares] using hminds
  | unsubscribeAll =>
      refine hlisteners _ ?_
      rintro m rfl
      cases hminds
  | dispatch e =>
      exact patience_fire fun l => hdeliver l e hminds
  | start =>
      exact patience_loose.start
  | stop bounded =>
      exact (patience_concludes name).requestStop bounded
  | _ =>
      trivial

/-- A patient listener hears an event, and does the rest aside. -/
theorem patience_hear
    {act : Operation → Run (World (AnsweredLine σ) Audience) Value}
    (hact : ∀ op, (Reaction.performs op).isPatient own who = true →
      Run.Follows (.patience peer own who) (act op))
    (l : Listener)
    (e : Event)
    (w : World (AnsweredLine σ) Audience) :
    ∃ t, (hear act l e w).trace = .heard l.name e :: t
      ∧ (Passage.patience peer own who).holds w t (hear act l e w).state := by
  rw [hear_eq]
  exact ⟨_, rfl, holds_reaction aside_unaudited (fun _ _ => patience_emit rfl) hact l.name w⟩

/-- However deep the calls of patient listeners are nested, all they ask for is done aside. -/
theorem patience_performNested :
    ∀ (depth : Nat) (op : Operation), (Reaction.performs op).isPatient own who = true →
      Run.Follows (.patience peer own who)
        (performNested (answeredPort name peer) depth op)
  | 0, _, hop => patience_perform name (fun _ _ he => patience_emit he) hop
  | depth + 1, _, hop => by
      refine patience_perform name (fun l e he => ?_) hop
      intro w
      obtain ⟨t, htrace, haside⟩ := patience_hear (patience_performNested depth) l e w
      have hheard : Run.Follows (.patience peer own who) (Run.emit (.heard l.name e)) :=
        patience_emit he
      rw [htrace]
      exact (Passage.patience peer own who).onward (hheard w) haside

end Operations

/-! ## Events that the courier tells -/

section Events

variable (peer own who) in
/-- An event is told so often to each name, and the rest is done aside. -/
structure Tells (e : Event) (hearers : String → Nat) (w : World (AnsweredLine σ) Audience)
    (r : Report (World (AnsweredLine σ) Audience) Unit) : Prop where
  result_eq : r.result = .ok ()
  aside : (Passage.aside peer fun x => own x || x == e).holds w r.trace r.state
  patient : Patient own who r.state
  heard_eq : ∀ n, (r.trace.heardBy n).filter (fun x => !own x) =
    (List.replicate (hearers n) e).filter fun x => !own x

theorem aside_mono
    {own' : Event → Bool}
    (hown : ∀ x, own x = true → own' x = true)
    {w v : World (AnsweredLine σ) Audience}
    {t : Trace}
    (h : (Passage.aside peer own).holds w t v) :
    (Passage.aside peer own').holds w t v := by
  obtain ⟨hidle, hrest⟩ := h
  exact ⟨⟨hidle.policy_eq, hidle.codec_eq, hidle.record_eq, hidle.line_eq, hidle.closes,
    fun l x hx => hown x (hidle.heard_own l x hx)⟩, hrest⟩

theorem heardBy_of_own
    {t : Trace}
    (h : ∀ l x, .heard l x ∈ t → own x = true)
    (n : String) :
    (t.heardBy n).filter (fun x => !own x) = [] := by
  rw [List.filter_eq_nil_iff]
  intro x hx
  simp [h n x (Trace.heard_of_mem_heardBy hx)]

variable (peer own who) in
/-- Deliveries to patient listeners: each hears the event, does the rest aside and halts only
in faults. -/
structure Placid (deliver : Deliver (AnsweredLine σ) Audience) : Prop where
  heard : ∀ l e w, Patient own who w →
    ∃ t, (deliver l e w).trace = .heard l.name e :: t
      ∧ (Passage.aside peer own).holds w t (deliver l e w).state
      ∧ Patient own who (deliver l e w).state
  faults : ∀ l e w h, Patient own who w → (deliver l e w).result = .error h → h.isFault = true

theorem placid_hear
    (name : Value)
    (depth : Nat) :
    Placid peer own who (hear (performNested (answeredPort name peer) depth)) where
  heard l e w hw := by
    obtain ⟨t, htrace, haside⟩ := patience_hear (patience_performNested name depth) l e w
    exact ⟨t, htrace, haside hw⟩
  faults l e w h hw hr := by
    have hplanned := hear_halts hw.2 hr
    exact (Bool.and_eq_true_iff.mp hplanned).1

variable {deliver : Deliver (AnsweredLine σ) Audience} (hdeliver : Placid peer own who deliver)
include hdeliver

/-- A listener hears an event, and what it fails with is contained. -/
theorem exists_contained
    (l : Listener)
    (e : Event)
    {w : World (AnsweredLine σ) Audience}
    (hw : Patient own who w) :
    ∃ t v,
      Run.contained Listener.name deliver e l w = ⟨.heard l.name e :: t, .ok (), v⟩
        ∧ (Passage.aside peer own).holds w t v ∧ Patient own who v := by
  obtain ⟨t, htrace, haside, hv⟩ := hdeliver.heard l e w hw
  unfold Run.contained
  cases hr : (deliver l e w).result with
  | ok u =>
      rw [Run.handle_of_ok hr, htrace]
      exact ⟨t, _, rfl, haside, hv⟩
  | error h =>
      have hfault := hdeliver.faults l e w h hw hr
      cases h with
      | exit status =>
          cases hfault
      | fault f =>
          have hnoted : (Passage.aside peer own).holds (deliver l e w).state
              [.listenerFailed l.name e] (deliver l e w).state :=
            aside_emit (e := .listenerFailed l.name e) rfl _
          rw [Run.handle_of_error hr, htrace]
          exact ⟨t ++ [.listenerFailed l.name e], _, rfl,
            (Passage.aside peer own).onward haside hnoted, hv⟩

theorem tells_dispatch
    (e : Event) :
    ∀ (ls : List Listener) (w : World (AnsweredLine σ) Audience), Patient own who w →
      Tells peer own who e (fun n => ls.countP fun l => l.name = n) w
        (Run.dispatch Listener.name deliver e ls w)
  | [], w, hw =>
      ⟨rfl, (Passage.aside peer _).stay w, hw, fun _ => rfl⟩
  | l :: rest, w, hw => by
      obtain ⟨t, v, hfirst, haside, hv⟩ := exists_contained hdeliver l e hw
      have hrest := tells_dispatch e rest v hv
      have hok : (Run.contained Listener.name deliver e l w).result = .ok () := by rw [hfirst]
      have hboth := Run.bind_of_ok (f := fun _ => Run.dispatch Listener.name deliver e rest) hok
      rw [hfirst] at hboth
      have hheard : Run.Follows (.aside peer fun x => own x || x == e)
          (Run.emit (.heard l.name e)) := aside_emit (by simp [Entry.isAside])
      have hmore : (Passage.aside peer fun x => own x || x == e).holds w t v :=
        aside_mono (fun x hx => by simp [hx]) haside
      change Tells peer own who e _ w
        ((Run.contained Listener.name deliver e l >>= fun _ => _) w)
      rw [hboth]
      refine ⟨hrest.result_eq, ?_, hrest.patient, fun n => ?_⟩
      · exact (Passage.aside peer _).onward
          ((Passage.aside peer _).onward (t := [_]) (hheard w) hmore) hrest.aside
      · have hnone := heardBy_of_own haside.1.heard_own n
        have hlater := hrest.heard_eq n
        let later := (Run.dispatch Listener.name deliver e rest v).trace
        have hsplit : Entry.heard l.name e :: t ++ later = [.heard l.name e] ++ (t ++ later) := rfl
        change List.filter _ (Trace.heardBy n (_ :: t ++ later)) = _
        rw [hsplit, Trace.heardBy_append, Trace.heardBy_append, List.filter_append,
          List.filter_append, hnone, hlater]
        by_cases hl : l.name = n
        · cases hown : own e <;>
            simp [Trace.heardBy, hl, hown, List.replicate_succ]
        · simp [Trace.heardBy, hl]

/-- An event that is fired is told to all listeners, each of whom does the rest aside. -/
theorem tells_fire
    (e : Event)
    {w : World (AnsweredLine σ) Audience}
    (hw : Patient own who w) :
    Tells peer own who e (fun n => w.courier.listeners.hearers n) w (fire deliver e w) :=
  tells_dispatch hdeliver e w.courier.listeners.listeners w hw

end Events

end World

end AcceptorHost
