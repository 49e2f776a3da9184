import AcceptorHost.Proofs.Reactions
import AcceptorHost.Proofs.RunRelations

/-!
# Runs from related states

Two runs go abreast from related states if they return the same, leave the same of what is
looked at in a trace, and end in related states.  This is kept when runs are composed, so it is
a kinship: whole ticks and operations go abreast as soon as their steps do.  Listeners with the
same plans go abreast if what they ask for does.
-/

namespace AcceptorHost

/-- Runs that return the same and leave the same of what is looked at, from related states to
related states. -/
def Kinship.abreast
    {S T : Type}
    (R : S → T → Prop)
    (keep : Entry → Bool) :
    Kinship S T where
  kin x y := ∀ s t, R s t →
    (x s).result = (y t).result
      ∧ (x s).trace.filter keep = (y t).trace.filter keep
      ∧ R (x s).state (y t).state
  give _ _ _ h := ⟨rfl, rfl, h⟩
  halt _ _ _ h := ⟨rfl, rfl, h⟩
  bind := by
    intro α β x y f g hx hf s t hst
    obtain ⟨hresult, htrace, hstate⟩ := hx s t hst
    cases hr : (x s).result with
    | error h =>
        have kr : (y t).result = .error h := hresult ▸ hr
        rw [Run.bind_of_error hr, Run.bind_of_error kr]
        exact ⟨rfl, htrace, hstate⟩
    | ok a =>
        have kr : (y t).result = .ok a := hresult ▸ hr
        obtain ⟨kresult, ktrace, kstate⟩ := hf a _ _ hstate
        rw [Run.bind_of_ok hr, Run.bind_of_ok kr]
        refine ⟨kresult, ?_, kstate⟩
        rw [List.filter_append, List.filter_append, htrace, ktrace]
  handle := by
    intro α x y f g hx hf s t hst
    obtain ⟨hresult, htrace, hstate⟩ := hx s t hst
    cases hr : (x s).result with
    | ok a =>
        have kr : (y t).result = .ok a := hresult ▸ hr
        rw [Run.handle_of_ok hr, Run.handle_of_ok kr]
        exact ⟨rfl, htrace, hstate⟩
    | error h =>
        have kr : (y t).result = .error h := hresult ▸ hr
        obtain ⟨kresult, ktrace, kstate⟩ := hf h _ _ hstate
        rw [Run.handle_of_error hr, Run.handle_of_error kr]
        refine ⟨kresult, ?_, kstate⟩
        rw [List.filter_append, List.filter_append, htrace, ktrace]
  attempt hx s t hst := ⟨congrArg Except.ok (hx s t hst).1, (hx s t hst).2⟩

section Steps

variable {S T α : Type} {R : S → T → Prop} {keep : Entry → Bool}

/-- Where all of a trace is looked at, runs that go abreast leave the same. -/
theorem Kinship.abreast_exact
    {x : Run S α}
    {y : Run T α}
    (h : (Kinship.abreast R fun _ => true).kin x y)
    {s : S}
    {t : T}
    (hst : R s t) :
    (x s).result = (y t).result ∧ (x s).trace = (y t).trace ∧ R (x s).state (y t).state := by
  have hwhole (u : Trace) : u.filter (fun _ => true) = u := List.filter_eq_self.mpr fun _ _ => rfl
  obtain ⟨hresult, htrace, hstate⟩ := h s t hst
  rw [hwhole, hwhole] at htrace
  exact ⟨hresult, htrace, hstate⟩

theorem Kinship.abreast_emit
    (e : Entry) :
    (abreast R keep).kin (Run.emit e) (Run.emit e) := fun _ _ h => ⟨rfl, rfl, h⟩

/-- What is seen in related states may be looked at. -/
theorem Kinship.abreast_look
    {f : S → α}
    {g : T → α}
    (h : ∀ s t, R s t → f s = g t) :
    (abreast R keep).kin (Run.look f) (Run.look g) := fun s t hst =>
  ⟨congrArg Except.ok (h s t hst), rfl, hst⟩

/-- Changes that keep states related go abreast. -/
theorem Kinship.abreast_change
    {f : S → S}
    {g : T → T}
    (h : ∀ s t, R s t → R (f s) (g t)) :
    (abreast R keep).kin (Run.change f) (Run.change g) := fun s t hst =>
  ⟨rfl, rfl, h s t hst⟩

end Steps

/-- Listeners with the same plans go abreast if what they ask for does. -/
theorem World.abreast_hear
    {σ υ : Type}
    {R : World σ Audience → World υ Audience → Prop}
    {keep : Entry → Bool}
    {ok : Reaction → Bool}
    (haudience : ∀ v w, R v w → v.audience = w.audience)
    (hplans : ∀ v w, R v w → w.audience.Plans ok)
    (hnext : ∀ v w who, R v w →
      R { v with audience := (v.audience.next who).2 }
        { w with audience := (w.audience.next who).2 })
    {act : Operation → Run (World σ Audience) Value}
    {act' : Operation → Run (World υ Audience) Value}
    (hact : ∀ op, ok (.performs op) = true →
      (Kinship.abreast R keep).kin (act op) (act' op))
    (l : Listener)
    (e : Event) :
    (Kinship.abreast R keep).kin (hear act l e) (hear act' l e) := by
  let K : Kinship (World σ Audience) (World υ Audience) := Kinship.abreast R keep
  have hreact : ∀ now : List Reaction, (∀ r ∈ now, ok r = true) →
      K.kin (react act l.name now) (react act' l.name now) := by
    intro now
    induction now with
    | nil =>
        exact fun _ => K.give ()
    | cons r rest ih =>
        intro hnow
        have hrest := ih fun q hq => hnow q (List.mem_cons_of_mem r hq)
        cases r with
        | halts halt =>
            exact K.halt halt
        | performs op =>
            exact K.bind (K.attempt (hact op (hnow _ List.mem_cons_self))) fun _ =>
              K.bind (Kinship.abreast_emit _) fun _ => hrest
  intro v w hvw
  have hsame : (v.audience.next l.name).1 = (w.audience.next l.name).1 := by
    rw [haudience v w hvw]
  obtain ⟨hnow, -⟩ := Audience.next_plans (hplans v w hvw) l.name
  obtain ⟨hresult, htrace, hstate⟩ := hreact _ hnow _ _ (hnext v w l.name hvw)
  rw [hear_eq, hear_eq, hsame]
  refine ⟨hresult, ?_, hstate⟩
  rw [List.filter_cons, List.filter_cons, htrace]

/-- An event goes abreast that is told to the same listeners, if its deliveries do. -/
theorem World.abreast_fire
    {σ τ υ φ : Type}
    {R : World σ τ → World υ φ → Prop}
    {keep : Entry → Bool}
    {deliver : Deliver σ τ}
    {deliver' : Deliver υ φ}
    (hlisteners : ∀ v w, R v w → v.courier.listeners = w.courier.listeners)
    (hdeliver : ∀ l e, (Kinship.abreast R keep).kin (deliver l e) (deliver' l e))
    (e : Event) :
    (Kinship.abreast R keep).kin (fire deliver e) (fire deliver' e) := by
  let K : Kinship (World σ τ) (World υ φ) := Kinship.abreast R keep
  have hlook : K.kin (ask fun c => c.listeners.listeners) (ask fun c => c.listeners.listeners) :=
    Kinship.abreast_look fun v w hvw => congrArg Registry.listeners (hlisteners v w hvw)
  exact K.bind hlook fun ls =>
    Kinship.dispatch (fun l => hdeliver l e) (fun _ => Kinship.abreast_emit _) ls

end AcceptorHost
