import AcceptorHost.Proofs.NestedOperations

/-!
# Deliveries told apart from what they lead to

Some passages allow a listener to hear one event and not another.  Then a delivery cannot
follow the passage whatever it delivers; but what a listener does once it has heard the
event can.  A delivery hearkens to passages if it does so much, and whoever is told of an
event that may be heard follows them as a whole.  There may be several passages at once,
so that of one run each may be asked for.
-/

namespace AcceptorHost

namespace World

/-- Deliveries to listeners of which each hears the event, and then goes along passages. -/
def Hearkens
    {ι σ τ : Type}
    (p : ι → Passage (World σ τ))
    (deliver : Deliver σ τ) :
    Prop :=
  ∀ l e w, ∃ t, (deliver l e w).trace = .heard l.name e :: t
    ∧ ∀ i, (p i).holds w t (deliver l e w).state

section Deliveries

variable {ι σ τ : Type} {p : ι → Passage (World σ τ)} {deliver : Deliver σ τ}

/-- An event that may be heard is fired along a passage. -/
theorem Hearkens.fire
    (hdeliver : Hearkens p deliver)
    {i : ι}
    {e : Event}
    (hheard : ∀ l, Run.Follows (p i) (Run.emit (.heard l e)))
    (hfailed : ∀ l, Run.Follows (p i) (Run.emit (.listenerFailed l e))) :
    Run.Follows (p i) (World.fire deliver e) := by
  have hdelivered (l : Listener) : Run.Follows (p i) (deliver l e) := by
    intro w
    obtain ⟨t, htrace, hrest⟩ := hdeliver l e w
    rw [htrace]
    exact (p i).onward (t := [_]) (hheard l.name w) (hrest i)
  exact (Run.Follows.look _).bind fun ls =>
    Run.Follows.dispatch hdelivered (fun l => hfailed l.name) ls

/-- Events that may be heard are fired along a passage. -/
theorem Hearkens.fireAll
    (hdeliver : Hearkens p deliver)
    {i : ι} :
    ∀ {es : List Event},
      (∀ e ∈ es, ∀ l, Run.Follows (p i) (Run.emit (.heard l e))) →
      (∀ e ∈ es, ∀ l, Run.Follows (p i) (Run.emit (.listenerFailed l e))) →
        Run.Follows (p i) (World.fireAll deliver es)
  | [], _, _ => Run.Follows.give ()
  | e :: _, hheard, hfailed =>
      (hdeliver.fire (hheard e List.mem_cons_self) (hfailed e List.mem_cons_self)).bind fun _ =>
        hdeliver.fireAll (fun d hd => hheard d (List.mem_cons_of_mem e hd))
          fun d hd => hfailed d (List.mem_cons_of_mem e hd)

end Deliveries

section Audiences

variable {ι σ : Type} {p : ι → Passage (World σ Audience)} {order : Courier → Prop}
  {ok : Reaction → Bool} {port : Port σ}

/-- Listeners that only hear hearken to everything. -/
theorem hearkens_hearOnly :
    Hearkens p hearOnly := fun _ _ w => ⟨[], rfl, fun i => (p i).stay w⟩

/-- Listeners hearken to the passages that their operations follow. -/
theorem hearkens_hear
    {act : Operation → Run (World σ Audience) Value}
    (hunaudited : ∀ i, (p i).Unaudited)
    (hacted : ∀ i who outcome, Run.Follows ((p i).amid order ok) (Run.emit (.acted who outcome)))
    (hact : ∀ i op, ok (.performs op) = true → Run.Follows ((p i).amid order ok) (act op)) :
    Hearkens (fun i => (p i).amid order ok) (hear act) := by
  intro l e w
  rw [hear_eq]
  exact ⟨_, rfl, fun i => holds_reaction (hunaudited i) (hacted i) (hact i) l.name w⟩

/-- However deep the calls of listeners are nested, they follow passages that operations follow
among listeners that hearken to them. -/
theorem follows_performNested_of_hearkens
    (hunaudited : ∀ i, (p i).Unaudited)
    (hacted : ∀ i who outcome, Run.Follows ((p i).amid order ok) (Run.emit (.acted who outcome)))
    (hperform : ∀ {deliver : Deliver σ Audience},
      Hearkens (fun i => (p i).amid order ok) deliver →
        ∀ i op, ok (.performs op) = true →
          Run.Follows ((p i).amid order ok) (perform port deliver op)) :
    ∀ depth i op, ok (.performs op) = true →
      Run.Follows ((p i).amid order ok) (performNested port depth op)
  | 0, i, op, hop => hperform hearkens_hearOnly i op hop
  | depth + 1, i, op, hop => by
      refine hperform (hearkens_hear hunaudited hacted ?_) i op hop
      exact follows_performNested_of_hearkens hunaudited hacted hperform depth

end Audiences

end World

end AcceptorHost
