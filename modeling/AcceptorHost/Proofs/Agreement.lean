import AcceptorHost.Proofs.Stopping

/-!
# Where listeners are told

A listener that hears an event finds the control state as it is when the listener is told.
A guarded delivery is made where the control state passes a test; elsewhere another one takes
its place, and that may do anything.  Runs agree from where an invariant holds if they report
the same there and keep it.  If the control state passes the test wherever the loop's thread is
at work, then operations with guarded deliveries agree with those without, whatever takes the
place of a delivery: no listener is ever told where the test fails.
-/

namespace AcceptorHost

/-- A delivery that is made where the control state passes a test; elsewhere another one is. -/
def Deliver.guarded
    {σ τ : Type}
    (seen : Control → Prop)
    [DecidablePred seen]
    (other deliver : Deliver σ τ) :
    Deliver σ τ := fun l e w =>
  if seen w.courier.control then deliver l e w else other l e w

namespace World

variable {σ : Type} (seen : Control → Prop) [DecidablePred seen] (other : Deliver σ Audience)

/-- An operation whose listeners act where the control state passes a test, so many calls deep. -/
def performGuarded (port : Port σ) : Nat → Operation → Run (World σ Audience) Value
  | 0 => perform port (Deliver.guarded seen other hearOnly)
  | depth + 1 => perform port (Deliver.guarded seen other (hear (performGuarded port depth)))

/-- An operation whose listeners act where the control state passes a test. -/
def stepGuarded (port : Port σ) (op : Operation) : Run (World σ Audience) Value := fun w =>
  performGuarded seen other port (w.audience.depth + 1) op w

/-- The reports of such operations one after another. -/
def stepsGuarded (port : Port σ) :
    List Operation → World σ Audience → List (Report (World σ Audience) Value)
  | [], _ => []
  | op :: rest, w =>
      let r := stepGuarded seen other port op w
      r :: stepsGuarded port rest r.state

end World

/-! ## Agreement -/

/-- Runs agree if they report the same from where an invariant holds, and keep it. -/
def Kinship.agreement
    {S : Type}
    (inv : S → Prop) :
    Kinship S S where
  kin x y := ∀ s, inv s → x s = y s ∧ inv (x s).state
  give _ _ hs := ⟨rfl, hs⟩
  halt _ _ hs := ⟨rfl, hs⟩
  bind := by
    intro α β x y f g hx hf s hs
    obtain ⟨heq, hinv⟩ := hx s hs
    cases hr : (x s).result with
    | error h =>
        have kr : (y s).result = .error h := heq ▸ hr
        rw [Run.bind_of_error hr, Run.bind_of_error kr, ← heq]
        exact ⟨rfl, hinv⟩
    | ok a =>
        have kr : (y s).result = .ok a := heq ▸ hr
        obtain ⟨keq, kinv⟩ := hf a _ hinv
        rw [Run.bind_of_ok hr, Run.bind_of_ok kr, ← heq, ← keq]
        exact ⟨rfl, kinv⟩
  handle := by
    intro α x y f g hx hf s hs
    obtain ⟨heq, hinv⟩ := hx s hs
    cases hr : (x s).result with
    | ok a =>
        have kr : (y s).result = .ok a := heq ▸ hr
        rw [Run.handle_of_ok hr, Run.handle_of_ok kr, ← heq]
        exact ⟨rfl, hinv⟩
    | error h =>
        have kr : (y s).result = .error h := heq ▸ hr
        obtain ⟨keq, kinv⟩ := hf h _ hinv
        rw [Run.handle_of_error hr, Run.handle_of_error kr, ← heq, ← keq]
        exact ⟨rfl, kinv⟩
  attempt hx s hs := ⟨Run.attempt_congr (hx s hs).1, (hx s hs).2⟩

/-- A run that keeps an invariant agrees with itself. -/
theorem Run.Follows.agrees
    {S α : Type}
    {inv : S → Prop}
    {p : Passage S}
    {x : Run S α}
    (h : Run.Follows (p.under inv) x) :
    (Kinship.agreement inv).kin x x := fun s hs =>
  ⟨rfl, (h s hs).2⟩

/-- So does one that changes nothing. -/
theorem Kinship.agreement_emit
    {S : Type}
    {inv : S → Prop}
    (e : Entry) :
    (agreement inv).kin (Run.emit e) (Run.emit e) := fun _ hs => ⟨rfl, hs⟩

section Ticks

variable {σ τ : Type} {inv : World σ τ → Prop} {p : Passage (World σ τ)} {port : Port σ}
  {deliver deliver' : Deliver σ τ}
  (hdeliver : ∀ l e, (Kinship.agreement inv).kin (deliver l e) (deliver' l e))
include hdeliver

theorem World.agrees_fire
    (e : Event) :
    (Kinship.agreement inv).kin (World.fire deliver e) (World.fire deliver' e) :=
  (Kinship.agreement inv).bind (fun _ hw => ⟨rfl, hw⟩) fun ls =>
    Kinship.dispatch (fun l => hdeliver l e) (fun _ => Kinship.agreement_emit _) ls

/-- Ticks agree if their deliveries do. -/
theorem Passage.Permits.agrees_tick
    (h : (p.under inv).Permits port deliver) :
    (Kinship.agreement inv).kin (World.tick port deliver) (World.tick port deliver') := by
  let K : Kinship (World σ τ) (World σ τ) := Kinship.agreement inv
  have hlook {α : Type} (f : Courier → α) : K.kin (World.ask f) (World.ask f) :=
    fun _ hw => ⟨rfl, hw⟩
  have hticks : K.Ticks port deliver port deliver' :=
    { log := fun _ _ => Kinship.agreement_emit _
      slept := fun _ => Kinship.agreement_emit _
      ask := fun f _ => hlook f
      turned := h.turned.agrees
      record := fun f => (h.record f).agrees
      connect := h.connect.agrees
      disconnect := h.disconnect.agrees
      discard := h.discard.agrees
      send := fun bs => (h.send bs).agrees
      receive := fun n timeout => (h.receive n timeout).agrees
      fire := World.agrees_fire hdeliver }
  have hopen : K.kin (World.ensureOpen port) (World.ensureOpen port) :=
    K.bind (fun _ hw => ⟨rfl, hw⟩) fun _ => K.ite (K.give _) h.connect.agrees
  exact hticks.tick h.routine.takeRequest.agrees hopen

end Ticks

/-! ## Among listeners -/

namespace Passage.Bears

variable {σ : Type} {p : Passage (World σ Audience)} {order : Courier → Prop}
  {ok : Reaction → Bool} {port : Port σ} {deliver deliver' : Deliver σ Audience}
  (h : p.Bears order ok port)
  (hrunning : ∀ c, order c → c.control.thread = .running)
  (hpermits : ∀ {deliver : Deliver σ Audience}, World.Mild order ok p deliver →
    (p.amid order ok).Permits port deliver)
include h hrunning hpermits

/-- On the loop's thread operations agree if their deliveries do. -/
theorem agrees_perform
    (hmild : World.Mild order ok p deliver)
    (hdeliver : ∀ l e,
      (Kinship.agreement (World.Attended order ok)).kin (deliver l e) (deliver' l e))
    {op : Operation}
    (hop : ok (.performs op) = true) :
    (Kinship.agreement (World.Attended order ok)).kin (World.perform port deliver op)
      (World.perform port deliver' op) := by
  let K : Kinship (World σ Audience) (World σ Audience) :=
    Kinship.agreement (World.Attended order ok)
  cases op with
  | poll =>
      exact K.bind ((hpermits hmild).agrees_tick hdeliver) fun _ => K.give _
  | dispatch e =>
      exact K.bind (World.agrees_fire hdeliver e) fun _ => K.give _
  | pass =>
      intro w hw
      have hidle : w.courier.control.thread ≠ .parked := by
        rw [hrunning _ hw.1]
        decide
      have hpass : World.pass port deliver w = World.pass port deliver' w := by
        rw [World.pass_of_not_parked _ _ hidle, World.pass_of_not_parked _ _ hidle]
      exact ⟨Run.bind_congr hpass _, (h.perform hmild .pass hop w hw).2⟩
  | _ =>
      exact (h.perform hmild _ hop).agrees

omit h hrunning hpermits in
/-- Listeners agree if what they ask for does. -/
theorem agrees_hear
    {act act' : Operation → Run (World σ Audience) Value}
    (hact : ∀ op, ok (.performs op) = true →
      (Kinship.agreement (World.Attended order ok)).kin (act op) (act' op))
    (l : Listener)
    (e : Event) :
    (Kinship.agreement (World.Attended order ok)).kin (World.hear act l e)
      (World.hear act' l e) := by
  let K : Kinship (World σ Audience) (World σ Audience) :=
    Kinship.agreement (World.Attended order ok)
  have hreact : ∀ now : List Reaction, (∀ r ∈ now, ok r = true) →
      K.kin (World.react act l.name now) (World.react act' l.name now) := by
    intro now
    induction now with
    | nil =>
        exact fun _ => K.give ()
    | cons r rest ih =>
        intro hnow
        have hrest := ih fun q hq => hnow q (List.mem_cons_of_mem r hq)
        cases r with
        | halts halt =>
            exact K.halt halt
        | performs op =>
            exact K.bind (K.attempt (hact op (hnow _ List.mem_cons_self))) fun _ =>
              K.bind (Kinship.agreement_emit _) fun _ => hrest
  intro w hw
  obtain ⟨hnow, hlater⟩ := Audience.next_plans hw.2 l.name
  obtain ⟨heq, hinv⟩ := hreact _ hnow { w with audience := (w.audience.next l.name).2 }
    ⟨hw.1, hlater⟩
  rw [World.hear_eq, World.hear_eq]
  exact ⟨by rw [heq], hinv⟩

variable {seen : Control → Prop} [DecidablePred seen]
  (hseen : ∀ c, order c → seen c.control)
  (other : Deliver σ Audience)

omit h hrunning hpermits in
include hseen in
/-- Where the test is passed a guarded delivery is made. -/
theorem agrees_guarded
    {l : Listener}
    {e : Event}
    (hdeliver : (Kinship.agreement (World.Attended order ok)).kin (deliver l e) (deliver' l e)) :
    (Kinship.agreement (World.Attended order ok)).kin (deliver l e)
      (Deliver.guarded seen other deliver' l e) := by
  intro w hw
  unfold Deliver.guarded
  rw [if_pos (hseen _ hw.1)]
  exact hdeliver w hw

include hseen

/-- However deep the calls of listeners are nested, guarded operations agree with the others. -/
theorem agrees_performNested :
    ∀ (depth : Nat) (op : Operation), ok (.performs op) = true →
      (Kinship.agreement (World.Attended order ok)).kin (World.performNested port depth op)
        (World.performGuarded seen other port depth op)
  | 0, _, hop => by
      have hquiet : World.Mild order ok p World.hearOnly :=
        ⟨fun _ _ => h.emit _ rfl rfl, fun _ hr => by cases hr⟩
      exact h.agrees_perform hrunning hpermits hquiet
        (fun _ _ => agrees_guarded hseen other (Kinship.agreement_emit _)) hop
  | depth + 1, _, hop =>
      h.agrees_perform hrunning hpermits (h.mild depth)
        (fun l e => agrees_guarded hseen other (agrees_hear (agrees_performNested depth) l e)) hop

/-- Beside the loop's thread a guarded operation is the same if it is of lock-step runs, and its
tick begins in order. -/
theorem stepGuarded_eq
    {op : Operation}
    (hop : op.isLockStep = true)
    {w : World σ Audience}
    (hbegins : op.ticks w.courier = true → World.Attended order ok (World.tickStart op w)) :
    World.stepGuarded seen other port op w = World.step port op w := by
  let deliver := World.hear (World.performNested port w.audience.depth)
  let deliver' :=
    Deliver.guarded seen other (World.hear (World.performGuarded seen other port w.audience.depth))
  change World.perform port deliver' op w = World.perform port deliver op w
  cases op with
  | poll =>
      cases hop
  | dispatch e =>
      cases hop
  | pass =>
      cases hticks : Operation.pass.ticks w.courier with
      | true =>
          -- The pass itself is made beside the thread, where the test may fail; only its tick is
          -- made from a world in order.
          have htick := (hpermits (h.mild w.audience.depth)).agrees_tick
            (fun l e => agrees_guarded hseen other
              (agrees_hear (h.agrees_performNested hrunning hpermits hseen other _) l e))
            _ (hbegins hticks)
          rw [World.perform_of_tick hticks, World.perform_of_tick hticks]
          exact (Run.bind_congr (Run.attempt_congr htick.1) _).symm
      | false =>
          have hpass : World.pass port deliver' w = World.pass port deliver w :=
            (World.pass_of_idle hticks).trans (World.pass_of_idle hticks).symm
          exact Run.bind_congr hpass _
  | _ =>
      rfl

end Passage.Bears

end AcceptorHost
