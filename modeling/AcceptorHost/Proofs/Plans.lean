import AcceptorHost.Proofs.Endings
import AcceptorHost.Proofs.Reactions

/-!
# What is left of the plans of listeners

A passage embraces listeners if they follow it when they use up a part of their plans, and
so does everything that an operation is made of.  Whatever listeners ask for and however
deep their calls are nested, it follows such a passage.  One of them says that listeners at
most use up their plans.
-/

namespace AcceptorHost

/-- A passage that listeners follow when they use up their plans, and that is followed by
every call on the port, every change of the courier and every entry but a call. -/
structure Passage.Embraces {σ : Type} (p : Passage (World σ Audience)) (port : Port σ) : Prop where
  emit : ∀ e : Entry, e.isCall = false → Run.Follows p (Run.emit e)
  change : ∀ f, Run.Follows p (World.change f)
  connect : Run.Follows p (World.onPort port.connect)
  disconnect : Run.Follows p (World.onPort port.disconnect)
  discard : Run.Follows p (World.onPort port.discard)
  send : ∀ bs, Run.Follows p (World.onPort (port.send bs))
  receive : ∀ n timeout, Run.Follows p (World.onPort (port.receive n timeout))
  next : ∀ w who, p.holds w [] { w with audience := (w.audience.next who).2 }

namespace World

variable {σ : Type} {port : Port σ} {p : Passage (World σ Audience)}

theorem embraced_whole
    (h : p.Embraces port)
    {deliver : Deliver σ Audience}
    (hdeliver : ∀ l e, Run.Follows p (deliver l e)) :
    p.kinship.Whole port deliver port deliver :=
  Passage.whole h.emit h.change h.connect h.disconnect h.discard h.send h.receive hdeliver

/-- A listener follows a passage that it follows when it uses up a part of its plans, if what it
asks for does. -/
theorem follows_hear_freely
    (hemit : ∀ e : Entry, e.isCall = false → Run.Follows p (Run.emit e))
    (hnext : ∀ w who, p.holds w [] { w with audience := (w.audience.next who).2 })
    {act : Operation → Run (World σ Audience) Value}
    (hact : ∀ op, Run.Follows p (act op))
    (l : Listener)
    (e : Event) :
    Run.Follows p (hear act l e) := by
  have hreact (who : String) : ∀ now : List Reaction, Run.Follows p (react act who now) := by
    intro now
    induction now with
    | nil =>
        exact Run.Follows.give ()
    | cons r rest ih =>
        cases r with
        | halts halt =>
            exact Run.Follows.halt halt
        | performs op =>
            exact (Run.Follows.attempt (hact op)).bind fun _ =>
              (hemit _ rfl).bind fun _ => ih
  intro w
  rw [hear_eq]
  exact p.onward (t := [_]) (hemit _ rfl w)
    (p.onward (t := []) (hnext w l.name) (hreact l.name _ _))

/-- Operations among listeners follow a passage that ticks among listeners do that follow it, if
the loop may end along it and nothing but a tick calls on the port otherwise. -/
theorem follows_performNested
    (hconcludes : p.Concludes port)
    (hemit : ∀ e : Entry, e.isCall = false → Run.Follows p (Run.emit e))
    (hnext : ∀ w who, p.holds w [] { w with audience := (w.audience.next who).2 })
    (hlisteners : ∀ f, Run.Follows p (listeners f))
    (htick : ∀ {deliver : Deliver σ Audience}, (∀ l e, Run.Follows p (deliver l e)) →
      Run.Follows p (tick port deliver)) :
    ∀ (depth : Nat) (op : Operation), Run.Follows p (performNested port depth op) := by
  have hperform {deliver : Deliver σ Audience} (hdeliver : ∀ l e, Run.Follows p (deliver l e))
      (op : Operation) : Run.Follows p (perform port deliver op) :=
    hconcludes.perform (fun _ => hlisteners)
      (fun e _ => Run.Follows.fire hdeliver (fun _ _ => hemit _ rfl) e) fun _ => htick hdeliver
  intro depth
  induction depth with
  | zero =>
      exact hperform fun _ _ => hemit _ rfl
  | succ depth ih =>
      exact hperform (follows_hear_freely hemit hnext ih)

/-- Operations among listeners follow a passage that embraces all they do. -/
theorem embraced_performNested
    (h : p.Embraces port) :
    ∀ (depth : Nat) (op : Operation), Run.Follows p (performNested port depth op)
  | 0, op =>
      (embraced_whole h fun _ _ => h.emit _ rfl).perform op
  | depth + 1, op =>
      (embraced_whole h
      (follows_hear_freely h.emit h.next (embraced_performNested h depth))).perform op

theorem embraced_tickAmong
    (h : p.Embraces port) :
    Run.Follows p (tickAmong port) := fun w =>
  (embraced_whole h
    (follows_hear_freely h.emit h.next (embraced_performNested h w.audience.depth))).tick w

/-- Along a run whatever is known of all planned reactions stays known. -/
def planned : Passage (World σ Audience) where
  holds w _ v := ∀ ok, w.audience.Plans ok → v.audience.Plans ok
  stay _ _ h := h
  onward h k ok hw := k ok (h ok hw)

/-- Whatever operations do, listeners at most use up their plans. -/
theorem planned_embraces :
    planned.Embraces port where
  emit _ _ _ _ h := h
  change _ _ _ h := h
  connect _ _ h := h
  disconnect _ _ h := h
  discard _ _ h := h
  send _ _ _ h := h
  receive _ _ _ _ h := h
  next _ who _ h := (Audience.next_plans h who).2

theorem plans_step
    (port : Port σ)
    (op : Operation)
    {ok : Reaction → Bool}
    {w : World σ Audience}
    (hw : w.audience.Plans ok) :
    (step port op w).state.audience.Plans ok :=
  embraced_performNested planned_embraces _ op w ok hw

theorem plans_reached
    (port : Port σ)
    {ok : Reaction → Bool} :
    ∀ (ops : List Operation) {w : World σ Audience}, w.audience.Plans ok →
      (reached port ops w).audience.Plans ok
  | [], _, hw => hw
  | op :: rest, _, hw => plans_reached port rest (plans_step port op hw)

/-- In the worlds in which ticks begin, the plans are as they were or used up. -/
theorem plans_tickStarts
    {ok : Reaction → Bool} :
    ∀ (ops : List Operation) {w : World σ Audience}, w.audience.Plans ok →
      ∀ v ∈ tickStarts port ops w, v.audience.Plans ok
  | [], _, _, v, hv => by
      cases hv
  | op :: rest, w, hw, v, hv => by
      have hlater := plans_tickStarts rest (plans_step port op hw)
      unfold tickStarts at hv
      cases hticks : op.ticks w.courier with
      | false =>
          rw [hticks] at hv
          exact hlater v hv
      | true =>
          rw [hticks] at hv
          rcases List.mem_cons.mp hv with rfl | hv
          · rw [tickStart_audience]
            exact hw
          · exact hlater v hv

end World

end AcceptorHost
