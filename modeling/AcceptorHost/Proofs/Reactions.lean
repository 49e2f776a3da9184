import AcceptorHost.Courier.Audience
import AcceptorHost.Proofs.RunLaws

/-!
# What listeners that act can bring about

Every reaction of an audience stands in a plan from the start, so whatever is known
of all planned reactions is known of those that are still to come.  A passage that
the operations of an audience follow, one call deep, is followed by its operations
at every depth.
-/

namespace AcceptorHost

namespace Audience

/-- Every reaction that is still planned passes a test. -/
def Plans (ok : Reaction → Bool) (a : Audience) : Prop :=
  ∀ m ∈ a, ∀ now ∈ m.plan, ∀ r ∈ now, ok r = true

variable {ok : Reaction → Bool}

instance (a : Audience) : Decidable (Plans ok a) :=
  inferInstanceAs (Decidable (∀ m ∈ a, ∀ now ∈ m.plan, ∀ r ∈ now, ok r = true))

/-- A listener without plans may be of any kind. -/
theorem plans_planless
    (who : Listener) :
    Plans ok [⟨who, []⟩] := by
  intro m hm now hnow
  rw [List.mem_singleton.mp hm] at hnow
  cases hnow

theorem Plans.mono
    {ok' : Reaction → Bool}
    {a : Audience}
    (ha : Plans ok a)
    (hok : ∀ r, ok r = true → ok' r = true) :
    Plans ok' a :=
  fun m hm now hnow r hr => hok r (ha m hm now hnow r hr)

theorem next_plans
    {a : Audience}
    (ha : Plans ok a)
    (name : String) :
    (∀ r ∈ (a.next name).1, ok r = true) ∧ Plans ok (a.next name).2 := by
  induction a with
  | nil =>
      exact ⟨fun r hr => absurd hr (List.not_mem_nil), ha⟩
  | cons m rest ih =>
      have hm : ∀ now ∈ m.plan, ∀ r ∈ now, ok r = true := ha m List.mem_cons_self
      have hrest : Plans ok rest := fun k hk => ha k (List.mem_cons_of_mem m hk)
      unfold next
      split
      · split
        · exact ⟨fun r hr => absurd hr (List.not_mem_nil), ha⟩
        · rename_i now later hplan
          rw [hplan] at hm
          refine ⟨hm now List.mem_cons_self, ?_⟩
          intro k hk
          rcases List.mem_cons.mp hk with rfl | hk
          · exact fun p hp => hm p (List.mem_cons_of_mem now hp)
          · exact hrest k hk
      · obtain ⟨hnow, hlater⟩ := ih hrest
        refine ⟨hnow, ?_⟩
        intro k hk
        rcases List.mem_cons.mp hk with rfl | hk
        · exact hm
        · exact hlater k hk

end Audience

/-- Audiences change without notice along a passage. -/
def Passage.Unaudited
    {σ : Type}
    (p : Passage (World σ Audience)) :
    Prop :=
  ∀ w a, p.holds w [] { w with audience := a }

namespace World

variable {σ : Type}

/-- The courier is in order, and every reaction that is still planned passes a test. -/
def Attended (order : Courier → Prop) (ok : Reaction → Bool) (w : World σ Audience) :
    Prop :=
  order w.courier ∧ w.audience.Plans ok

theorem Attended.of_eq
    {order : Courier → Prop}
    {ok : Reaction → Bool}
    {w v : World σ Audience}
    (hw : Attended order ok w)
    (hcourier : v.courier = w.courier)
    (haudience : v.audience = w.audience) :
    Attended order ok v := by
  unfold Attended
  rw [hcourier, haudience]
  exact hw

variable {order : Courier → Prop} {ok : Reaction → Bool} {p : Passage (World σ Audience)}
  {act : Operation → Run (World σ Audience) Value}

/-- A listener that hears an event does what it planned for this call. -/
theorem hear_eq
    (act : Operation → Run (World σ Audience) Value)
    (l : Listener)
    (e : Event)
    (w : World σ Audience) :
    hear act l e w =
      let r := react act l.name (w.audience.next l.name).1
        { w with audience := (w.audience.next l.name).2 }
      ⟨.heard l.name e :: r.trace, r.result, r.state⟩ := by
  rfl

/-- Reactions halt only where a halt is planned. -/
theorem react_halts
    {who : String}
    {h : Halt} :
    ∀ {now : List Reaction} {w : World σ Audience},
      (react act who now w).result = .error h → .halts h ∈ now
  | [], _, hr => by
      cases hr
  | .halts k :: rest, w, hr => by
      cases hr
      exact List.mem_cons_self
  | .performs op :: rest, w, hr => by
      have hperformed :
          (react act who (.performs op :: rest) w).result =
            (react act who rest (act op w).state).result := by
        rfl
      rw [hperformed] at hr
      exact List.mem_cons_of_mem _ (react_halts hr)

/-- A listener halts only with what it planned to halt with. -/
theorem hear_halts
    {l : Listener}
    {e : Event}
    {h : Halt}
    {w : World σ Audience}
    (hw : w.audience.Plans ok)
    (hr : (hear act l e w).result = .error h) :
    ok (.halts h) = true := by
  obtain ⟨hnow, -⟩ := Audience.next_plans hw l.name
  rw [hear_eq] at hr
  exact hnow _ (react_halts hr)

/-- Reactions follow a passage that their operations follow. -/
theorem follows_react
    (hacted : ∀ who outcome,
      Run.Follows (p.under (Attended order ok)) (Run.emit (.acted who outcome)))
    (hact : ∀ op, ok (.performs op) = true → Run.Follows (p.under (Attended order ok)) (act op))
    (who : String) :
    ∀ now : List Reaction, (∀ r ∈ now, ok r = true) →
      Run.Follows (p.under (Attended order ok)) (react act who now)
  | [], _ => Run.Follows.give ()
  | .halts h :: _, _ => Run.Follows.halt h
  | .performs op :: rest, hnow => by
      have hop := hact op (hnow _ List.mem_cons_self)
      have hrest : ∀ r ∈ rest, ok r = true := fun r hr => hnow r (List.mem_cons_of_mem _ hr)
      exact (Run.Follows.attempt hop).bind fun outcome =>
        (hacted who outcome).bind fun _ => follows_react hacted hact who rest hrest

/-- What a listener does once it has heard an event follows a passage that its operations
follow. -/
theorem holds_reaction
    (haudience : p.Unaudited)
    (hacted : ∀ who outcome,
      Run.Follows (p.under (Attended order ok)) (Run.emit (.acted who outcome)))
    (hact : ∀ op, ok (.performs op) = true → Run.Follows (p.under (Attended order ok)) (act op))
    (who : String)
    (w : World σ Audience) :
    let r := react act who (w.audience.next who).1 { w with audience := (w.audience.next who).2 }
    (p.under (Attended order ok)).holds w r.trace r.state := by
  intro r hw
  obtain ⟨hnow, hrest⟩ := Audience.next_plans hw.2 who
  have hreact := follows_react hacted hact who _ hnow
    { w with audience := (w.audience.next who).2 } ⟨hw.1, hrest⟩
  exact ⟨p.onward (haudience w _) hreact.1, hreact.2⟩

/-- A listener that hears an event follows a passage that its operations follow. -/
theorem follows_hear
    (haudience : p.Unaudited)
    (hheard : ∀ l e, Run.Follows (p.under (Attended order ok)) (Run.emit (.heard l e)))
    (hacted : ∀ who outcome,
      Run.Follows (p.under (Attended order ok)) (Run.emit (.acted who outcome)))
    (hact : ∀ op, ok (.performs op) = true → Run.Follows (p.under (Attended order ok)) (act op))
    (l : Listener)
    (e : Event) :
    Run.Follows (p.under (Attended order ok)) (hear act l e) :=
  (hheard l.name e).bind fun _ => holds_reaction haudience hacted hact l.name

end World

end AcceptorHost
