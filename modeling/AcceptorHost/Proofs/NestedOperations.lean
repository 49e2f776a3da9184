import AcceptorHost.Proofs.Endings
import AcceptorHost.Proofs.LoopMarks
import AcceptorHost.Proofs.Reactions

/-!
# What listeners ask for, however deep

A passage bears listeners of some kind, and a courier in some order, if every operation
that they may ask for follows it, as long as those whom the operation tells of events
follow it too.  Then all that listeners ask for follows it, however deep their calls are
nested.  Listeners that halt only in faults let an event that they are told of return.
-/

namespace AcceptorHost

/-- A passage amid listeners whose planned reactions pass a test, the courier being in order. -/
abbrev Passage.amid
    {σ : Type}
    (order : Courier → Prop)
    (ok : Reaction → Bool)
    (p : Passage (World σ Audience)) :
    Passage (World σ Audience) :=
  p.under (World.Attended order ok)

/-- Deliveries that follow a passage and halt only as it is planned. -/
structure World.Mild
    {σ : Type}
    (order : Courier → Prop)
    (ok : Reaction → Bool)
    (p : Passage (World σ Audience))
    (deliver : Deliver σ Audience) : Prop where
  follows : ∀ l e, Run.Follows (p.amid order ok) (deliver l e)
  planned : ∀ {l e w h}, World.Attended order ok w →
    (deliver l e w).result = .error h → ok (.halts h) = true

/-- A passage is followed by what listeners may ask for if it is by those that are told of it. -/
structure Passage.Bears
    {σ : Type}
    (p : Passage (World σ Audience))
    (order : Courier → Prop)
    (ok : Reaction → Bool)
    (port : Port σ) : Prop where
  emit : ∀ e : Entry, e.isCall = false → e.loopMark? = none →
    Run.Follows (p.amid order ok) (Run.emit e)
  unaudited : p.Unaudited
  perform : ∀ {deliver : Deliver σ Audience}, World.Mild order ok p deliver →
    ∀ op, ok (.performs op) = true →
      Run.Follows (p.amid order ok) (World.perform port deliver op)

namespace World

variable {σ : Type} {p : Passage (World σ Audience)} {order : Courier → Prop}
  {ok : Reaction → Bool} {deliver : Deliver σ Audience}

/-- Events that are told to listeners that halt only in faults return. -/
theorem Mild.fire_ok
    (hdeliver : Mild order ok p deliver)
    (hfailed : ∀ l e, Run.Follows (p.amid order ok) (Run.emit (.listenerFailed l e)))
    (hfaults : ∀ h, ok (.halts h) = true → h.isFault = true)
    (e : Event)
    {w : World σ Audience}
    (hw : Attended order ok w) :
    (fire deliver e w).result = .ok () := by
  have hdispatch (ls : List Listener) :
      ∀ w, Attended order ok w → (Run.dispatch Listener.name deliver e ls w).result = .ok () := by
    induction ls with
    | nil =>
        intro w hw
        rfl
    | cons l rest ih =>
        intro w hw
        have hfirst : (Run.contained Listener.name deliver e l w).result = .ok () :=
          Run.contained_ok fun h hr => hfaults h (hdeliver.planned hw hr)
        have hafter := (Run.Follows.contained (hdeliver.follows l e) (hfailed l.name e) w hw).2
        have hbind := Run.bind_of_ok
          (f := fun _ => Run.dispatch Listener.name deliver e rest) hfirst
        exact (congrArg Report.result hbind).trans (ih _ hafter)
  exact hdispatch _ w hw

end World

namespace Passage.Bears

variable {σ : Type} {p : Passage (World σ Audience)} {order : Courier → Prop}
  {ok : Reaction → Bool} {port : Port σ} (h : p.Bears order ok port)
include h

theorem fire
    {deliver : Deliver σ Audience}
    (hdeliver : World.Mild order ok p deliver)
    (e : Event) :
    Run.Follows (p.amid order ok) (World.fire deliver e) :=
  Run.Follows.fire hdeliver.follows (fun _ _ => h.emit _ rfl rfl) e

/-- Listeners that act are mild if what they may ask for follows the passage. -/
theorem mild_hear
    {act : Operation → Run (World σ Audience) Value}
    (hact : ∀ op, ok (.performs op) = true → Run.Follows (p.amid order ok) (act op)) :
    World.Mild order ok p (World.hear act) where
  follows l e := World.follows_hear h.unaudited (fun _ _ => h.emit _ rfl rfl)
    (fun _ _ => h.emit _ rfl rfl) hact l e
  planned hw hr := World.hear_halts hw.2 hr

/-- However deep the calls of listeners are nested, all they may ask for follows the passage. -/
theorem performNested :
    ∀ (depth : Nat) (op : Operation), ok (.performs op) = true →
      Run.Follows (p.amid order ok) (World.performNested port depth op)
  | 0, _, hop => by
      have hquiet : World.Mild order ok p World.hearOnly :=
        ⟨fun _ _ => h.emit _ rfl rfl, fun _ hr => by cases hr⟩
      exact h.perform hquiet _ hop
  | depth + 1, _, hop => h.perform (h.mild_hear (performNested depth)) _ hop

/-- The listeners of an operation are mild. -/
theorem mild
    (depth : Nat) :
    World.Mild order ok p (World.hear (World.performNested port depth)) :=
  h.mild_hear (h.performNested depth)

end Passage.Bears

namespace Passage

variable {σ : Type} {p : Passage (World σ Audience)} {order : Courier → Prop}
  {ok : Reaction → Bool} {port : Port σ}

/-- A passage that concludes bears listeners if the ticks that they may ask for follow it. -/
theorem Concludes.bears
    (h : (p.amid order ok).Concludes port)
    (hemit : ∀ e : Entry, e.isCall = false → Run.Follows (p.amid order ok) (Run.emit e))
    (hunaudited : p.Unaudited)
    (hlisteners : ∀ f, Run.Follows (p.amid order ok) (World.listeners f))
    (htick : ok (.performs .poll) = true ∨ ok (.performs .pass) = true →
      ∀ {deliver : Deliver σ Audience}, World.Mild order ok p deliver →
        Run.Follows (p.amid order ok) (World.tick port deliver)) :
    p.Bears order ok port where
  emit e he _ := hemit e he
  unaudited := hunaudited
  perform := by
    intro deliver hdeliver op hop
    have hfire (e : Event) : Run.Follows (p.amid order ok) (World.fire deliver e) :=
      Run.Follows.fire hdeliver.follows (fun _ _ => hemit _ rfl) e
    refine h.perform (fun _ => hlisteners) (fun e _ => hfire e) fun hticks => htick ?_ hdeliver
    rcases hticks with rfl | rfl
    · exact Or.inl hop
    · exact Or.inr hop

end Passage

end AcceptorHost
