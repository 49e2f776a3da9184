import AcceptorHost.Proofs.Chronicle
import AcceptorHost.Proofs.NestedOperations
import AcceptorHost.Proofs.Simulations
import Mathlib.Data.List.Forall2

/-!
# Listeners that only observe

Listeners that only observe or fail are told of an event, and nothing comes of it but entries
that tell of them.  So worlds that differ only in who listens (`World.Twins`) go abreast through
ticks, starts, passes and stops, and nothing that the courier or its port does depends on the
listeners.
-/

namespace AcceptorHost

/-- A reaction that fails and asks for nothing. -/
def Reaction.observes : Reaction → Bool
  | .halts h => h.isFault
  | .performs _ => false

/-- An entry tells of something else than listeners. -/
def Entry.isUnheard : Entry → Bool
  | .heard _ _ | .listenerFailed _ _ | .acted _ _ => false
  | _ => true

/-- What a trace tells besides what listeners heard and did. -/
def Trace.unheard (t : Trace) : Trace := t.filter Entry.isUnheard

/-- Along a run listeners are told of events, and nothing else happens. -/
def Passage.observed
    {σ : Type} :
    Passage (World σ Audience) where
  holds w t v := t.unheard = [] ∧ v.courier = w.courier ∧ v.port = w.port
  stay _ := ⟨rfl, rfl, rfl⟩
  onward := by
    rintro w t v u x ⟨htrace, hcourier, hport⟩ ⟨ktrace, kcourier, kport⟩
    refine ⟨?_, kcourier.trans hcourier, kport.trans hport⟩
    unfold Trace.unheard at htrace ktrace ⊢
    rw [List.filter_append, htrace, ktrace, List.append_nil]

namespace World

variable {σ : Type}

/-- Listeners that only observe, whatever else might be asked for, are mild. -/
theorem mild_observers
    (act : Operation → Run (World σ Audience) Value) :
    Mild (fun _ => True) Reaction.observes Passage.observed (hear act) where
  follows l e := follows_hear (p := Passage.observed) (fun _ _ => ⟨rfl, rfl, rfl⟩)
    (fun _ _ _ hw => ⟨⟨rfl, rfl, rfl⟩, hw⟩) (fun _ _ _ hw => ⟨⟨rfl, rfl, rfl⟩, hw⟩)
    (fun _ hop => by cases hop) l e
  planned hw hr := hear_halts hw.2 hr

/-- An event that observers are told of returns and changes nothing but their plans. -/
theorem fire_observed
    (act : Operation → Run (World σ Audience) Value)
    (e : Event)
    {w : World σ Audience}
    (hw : w.audience.Plans Reaction.observes) :
    (fire (hear act) e w).result = .ok ()
      ∧ Passage.observed.holds w (fire (hear act) e w).trace (fire (hear act) e w).state
      ∧ (fire (hear act) e w).state.audience.Plans Reaction.observes := by
  have hfailed (l : String) (e : Event) :
      Run.Follows (Passage.observed.amid (fun _ => True) Reaction.observes)
        (Run.emit (.listenerFailed l e) : Run (World σ Audience) Unit) :=
    fun _ hv => ⟨⟨rfl, rfl, rfl⟩, hv⟩
  have hreturns := (mild_observers act).fire_ok hfailed (fun _ h => h) e ⟨trivial, hw⟩
  obtain ⟨hobserved, -, hplans⟩ :=
    Run.Follows.fire (mild_observers act).follows hfailed e w ⟨trivial, hw⟩
  exact ⟨hreturns, hobserved, hplans⟩

/-- Worlds that differ only in who listens. -/
structure Twins (v w : World σ Audience) : Prop where
  policy : v.courier.policy = w.courier.policy
  codec : v.courier.codec = w.courier.codec
  control : v.courier.control = w.courier.control
  record : v.courier.record = w.courier.record
  port : v.port = w.port

/-- Worlds that differ only in who observes. -/
structure Observed (v w : World σ Audience) : Prop where
  twins : Twins v w
  left : v.audience.Plans Reaction.observes
  right : w.audience.Plans Reaction.observes

/-- Worlds with different observers go abreast in what a trace tells besides them. -/
abbrev unheeding : Kinship (World σ Audience) (World σ Audience) :=
  Kinship.abreast Observed Entry.isUnheard

theorem unheeding_change
    {f : Courier → Courier}
    (hf : ∀ c d : Courier, c.policy = d.policy → c.codec = d.codec → c.control = d.control →
      c.record = d.record →
        (f c).policy = (f d).policy ∧ (f c).codec = (f d).codec ∧ (f c).control = (f d).control
          ∧ (f c).record = (f d).record) :
    unheeding.kin (change f : Run (World σ Audience) Unit) (change f) := by
  refine Kinship.abreast_change fun v w hvw => ⟨?_, hvw.left, hvw.right⟩
  obtain ⟨hpolicy, hcodec, hcontrol, hrecord, hport⟩ := hvw.twins
  obtain ⟨kpolicy, kcodec, kcontrol, krecord⟩ := hf _ _ hpolicy hcodec hcontrol hrecord
  exact ⟨kpolicy, kcodec, kcontrol, krecord, hport⟩

theorem unheeding_control
    (f : Control → Control) :
    unheeding.kin (control f : Run (World σ Audience) Unit) (control f) :=
  unheeding_change fun _ _ hpolicy hcodec hcontrol hrecord =>
    ⟨hpolicy, hcodec, congrArg f hcontrol, hrecord⟩

theorem unheeding_onPort
    {α : Type}
    (x : Run σ α) :
    unheeding.kin (onPort x) (onPort x) := by
  intro v w hvw
  obtain ⟨hpolicy, hcodec, hcontrol, hrecord, hport⟩ := hvw.twins
  change (x v.port).result = (x w.port).result
    ∧ (x v.port).trace.filter _ = (x w.port).trace.filter _ ∧ Observed (onPort x v).state _
  rw [hport]
  refine ⟨rfl, rfl, ⟨hpolicy, hcodec, hcontrol, hrecord, ?_⟩, hvw.left, hvw.right⟩
  exact congrArg (fun p => (x p).state) hport

theorem unheeding_fire
    (act act' : Operation → Run (World σ Audience) Value)
    (e : Event) :
    unheeding.kin (fire (hear act) e) (fire (hear act') e) := by
  intro v w hvw
  obtain ⟨hreturns, ⟨htrace, hcourier, hport⟩, hplans⟩ := fire_observed act e hvw.left
  obtain ⟨kreturns, ⟨ktrace, kcourier, kport⟩, kplans⟩ := fire_observed act' e hvw.right
  refine ⟨hreturns.trans kreturns.symm, htrace.trans ktrace.symm, ?_, hplans, kplans⟩
  have htwins := hvw.twins
  constructor
  · rw [hcourier, kcourier, htwins.policy]
  · rw [hcourier, kcourier, htwins.codec]
  · rw [hcourier, kcourier, htwins.control]
  · rw [hcourier, kcourier, htwins.record]
  · rw [hport, kport, htwins.port]

/-- All that operations are made of goes abreast, but the count of listeners. -/
theorem unheeding_sides
    (port : Port σ)
    (act act' : Operation → Run (World σ Audience) Value) :
    unheeding.Sides port (hear act) port (hear act') where
  ticks :=
    { log := fun _ _ => Kinship.abreast_emit _
      slept := fun _ => Kinship.abreast_emit _
      ask := fun f hf => Kinship.abreast_look fun v w hvw =>
        hf _ _ hvw.twins.policy hvw.twins.codec hvw.twins.record
      turned := unheeding_change fun _ _ hpolicy hcodec hcontrol hrecord =>
        ⟨hpolicy, congrArg Codec.turned hcodec, hcontrol, hrecord⟩
      record := fun f => unheeding_change fun _ _ hpolicy hcodec hcontrol hrecord =>
        ⟨hpolicy, hcodec, hcontrol, congrArg f hrecord⟩
      connect := unheeding_onPort _
      disconnect := unheeding_onPort _
      discard := unheeding_onPort _
      send := fun _ => unheeding_onPort _
      receive := fun _ _ => unheeding_onPort _
      fire := unheeding_fire act act' }
  rounds :=
    { name_eq := rfl
      log := fun _ _ => Kinship.abreast_emit _
      died := fun _ => Kinship.abreast_emit _
      waited := fun _ => Kinship.abreast_emit _
      look := fun f hf => Kinship.abreast_look fun v w hvw =>
        hf _ _ hvw.twins.policy hvw.twins.control
      control := fun f _ => unheeding_control f
      disconnect := unheeding_onPort _ }
  opening := by
    have hlook : unheeding.kin (Run.look fun w : World σ Audience => port.isOpen w.port)
        (Run.look fun w : World σ Audience => port.isOpen w.port) :=
      Kinship.abreast_look fun v w hvw => by rw [hvw.twins.port]
    exact unheeding.bind hlook fun _ => unheeding.ite (unheeding.give ()) (unheeding_onPort _)
  mailbox f := unheeding_control fun c => { c with mailbox := f c.mailbox }
  listeners _ := unheeding_change fun _ _ hpolicy hcodec hcontrol hrecord =>
    ⟨hpolicy, hcodec, hcontrol, hrecord⟩

/-- Every operation leaves worlds with different observers so; all but the count of listeners
return the same. -/
theorem observed_step
    (port : Port σ)
    (op : Operation)
    {v w : World σ Audience}
    (hvw : Observed v w) :
    (op ≠ .count → (step port op v).result = (step port op w).result)
      ∧ (step port op v).trace.unheard = (step port op w).trace.unheard
      ∧ Observed (step port op v).state (step port op w).state := by
  have hsides := unheeding_sides port (performNested port v.audience.depth)
    (performNested port w.audience.depth)
  by_cases hop : op = .count
  · rw [hop]
    exact ⟨fun h => absurd rfl h, rfl, hvw⟩
  · obtain ⟨hresult, hrest⟩ := hsides.perform (fun h => absurd h hop) v w hvw
    exact ⟨fun _ => hresult, hrest⟩

/--
Whatever the settings of a courier and the behaviour of its port: from two worlds that differ
only in who listens, every row of operations leaves the same traces but for what listeners heard
and how they failed, and goes through the same states of the courier and its port but for its
listeners, if these only observe or fail.  All operations but the count of listeners return the
same.
-/
theorem listeners_cannot_influence
    {port : Port σ}
    {v w : World σ Audience}
    (htwins : Twins v w)
    (hv : v.audience.Plans Reaction.observes)
    (hw : w.audience.Plans Reaction.observes)
    (ops : List Operation) :
    List.Forall₂ (fun r q => r.trace.unheard = q.trace.unheard ∧ Twins r.state q.state)
        (steps port ops v) (steps port ops w)
      ∧ (.count ∉ ops →
        (steps port ops v).map Report.result = (steps port ops w).map Report.result) := by
  induction ops generalizing v w with
  | nil =>
      exact ⟨.nil, fun _ => rfl⟩
  | cons op rest ih =>
      obtain ⟨hresult, htrace, hafter⟩ := observed_step port op ⟨htwins, hv, hw⟩
      obtain ⟨hrest, hresults⟩ := ih hafter.twins hafter.left hafter.right
      refine ⟨.cons ⟨htrace, hafter.twins⟩ hrest, fun hcount => ?_⟩
      have hop : op ≠ .count := fun h => hcount (h ▸ List.mem_cons_self)
      have hlater := hresults fun h => hcount (List.mem_cons_of_mem op h)
      change (step port op v).result :: _ = (step port op w).result :: _
      rw [hresult hop, hlater]

/-- A listener that fails at the first two events of ticks, against nobody who listens. -/
theorem listeners_cannot_influence_failing :
    let port := answeredPort (.text "dev0") (.steady Responder.ofOutcomes)
    let fails : List Reaction := [.halts (.fault .wrongType)]
    let answers : List (Except Fault (List UInt8)) :=
      [.ok [], .ok [], .error (.noReply "late"), .ok [], .error (.linkDown "lost")]
    let v := unused answers [⟨⟨"rec", .null⟩, [fails, fails]⟩]
    let w := unused answers []
    let ops : List Operation :=
      [.poll, .request .reset, .start, .pass, .pause true, .pass, .stop true, .pass]
    (chronicle port ops v).heardBy "rec" ≠ []
      ∧ List.Forall₂ (fun r q => r.trace.unheard = q.trace.unheard ∧ Twins r.state q.state)
        (steps port ops v) (steps port ops w)
      ∧ (steps port ops v).map Report.result = (steps port ops w).map Report.result := by
  intro port fails answers v w ops
  have hv : v.audience.Plans Reaction.observes := by decide
  have hw : w.audience.Plans Reaction.observes := by decide
  have hheard : (chronicle port ops v).heardBy "rec" ≠ [] := by decide +kernel
  have htwins : Twins v w := ⟨rfl, rfl, rfl, rfl, rfl⟩
  clear_value v w
  obtain ⟨hsame, hresults⟩ : List.Forall₂ _ (steps port ops v) (steps port ops w) ∧ _ :=
    listeners_cannot_influence htwins hv hw ops
  exact ⟨hheard, hsame, hresults (by simp [ops])⟩

end World

end AcceptorHost
