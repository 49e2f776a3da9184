import AcceptorHost.Courier.Operation
import AcceptorHost.Proofs.RegistryHistory
import AcceptorHost.Proofs.RunLaws

/-!
# Operations in one line each

An operation does one thing and returns a value.  Requests, pauses and counts touch no
more than the mailbox and the pause flag; so a passage along which these may change is
followed by an operation if it allows the one thing that the operation does otherwise.
Three operations change the registered listeners, and do nothing else.
-/

namespace AcceptorHost

variable {σ τ : Type} {p : Passage (World σ τ)} {port : Port σ} {deliver : Deliver σ τ}

/-- An event that is fired follows a passage that its delivery follows. -/
theorem Run.Follows.fire
    (hdeliver : ∀ l e, Run.Follows p (deliver l e))
    (hfailed : ∀ l e, Run.Follows p (Run.emit (.listenerFailed l e)))
    (e : Event) :
    Run.Follows p (World.fire deliver e) :=
  (Run.Follows.look _).bind fun ls =>
    Run.Follows.dispatch (fun l => hdeliver l e) (fun l => hfailed l.name e) ls

/-- The change of the registered listeners that an operation makes. -/
def Operation.change? : Operation → Option (Registry.Change Listener)
  | .subscribe l => some (.subscribed l)
  | .unsubscribe l => some (.unsubscribed l)
  | .unsubscribeAll => some .cleared
  | _ => none

theorem World.perform_of_change
    (port : Port σ)
    (deliver : Deliver σ τ)
    {op : Operation}
    {c : Registry.Change Listener}
    (h : op.change? = some c)
    (w : World σ τ) :
    perform port deliver op w =
      ⟨[], .ok .null,
        { w with courier := { w.courier with listeners := w.courier.listeners.changed c } }⟩ := by
  cases op with
  | subscribe l =>
      cases h
      rfl
  | unsubscribe l =>
      cases h
      rfl
  | unsubscribeAll =>
      cases h
      rfl
  | _ =>
      cases h

/-- What an operation does beyond the mailbox and the pause flag follows a passage. -/
def Passage.Allows
    (p : Passage (World σ τ))
    (port : Port σ)
    (deliver : Deliver σ τ) :
    Operation → Prop
  | .poll => Run.Follows p (World.tick port deliver)
  | .subscribe l => Run.Follows p (World.listeners (Registry.subscribe l))
  | .unsubscribe l => Run.Follows p (World.listeners (Registry.unsubscribe l))
  | .unsubscribeAll => Run.Follows p (World.listeners fun _ => Registry.empty)
  | .dispatch e => Run.Follows p (World.fire deliver e)
  | .start => Run.Follows p (World.start port)
  | .pass => Run.Follows p (World.pass port deliver)
  | .stop bounded => Run.Follows p (World.requestStop port bounded)
  | .request _ | .takeRequest | .pause _ | .count => True

/-- An operation follows a passage that allows it. -/
theorem Run.Follows.perform
    {op : Operation}
    (hcontrol : ∀ f : Control → Control, (∀ c, (f c).thread = c.thread) →
      (∀ c, (f c).phase = c.phase) → (∀ c, (f c).stopFlag = c.stopFlag) →
      Run.Follows p (World.control f))
    (hop : p.Allows port deliver op) :
    Run.Follows p (World.perform port deliver op) := by
  cases op with
  | poll =>
      exact Run.Follows.bind hop fun _ => Run.Follows.give _
  | request r =>
      have hrequest : Run.Follows p (World.request r) :=
        hcontrol _ (fun _ => rfl) (fun _ => rfl) fun _ => rfl
      exact hrequest.bind fun _ => Run.Follows.give _
  | takeRequest =>
      have hleave (m : Mailbox) :
          Run.Follows p (World.control fun c => { c with mailbox := m }) :=
        hcontrol _ (fun _ => rfl) (fun _ => rfl) fun _ => rfl
      have htake : Run.Follows p World.takeRequest :=
        (Run.Follows.look _).bind fun taken => (hleave taken.2).bind fun _ => Run.Follows.give _
      refine htake.bind fun taken => ?_
      cases taken with
      | none =>
          exact Run.Follows.give _
      | some r =>
          exact Run.Follows.give _
  | pause value =>
      have hpaused : Run.Follows p (World.setPaused value) :=
        hcontrol _ (fun _ => rfl) (fun _ => rfl) fun _ => rfl
      exact hpaused.bind fun _ => Run.Follows.give _
  | subscribe l =>
      exact Run.Follows.bind hop fun _ => Run.Follows.give _
  | unsubscribe l =>
      exact Run.Follows.bind hop fun _ => Run.Follows.give _
  | unsubscribeAll =>
      exact Run.Follows.bind hop fun _ => Run.Follows.give _
  | dispatch e =>
      exact Run.Follows.bind hop fun _ => Run.Follows.give _
  | count =>
      exact (Run.Follows.look _).bind fun _ => Run.Follows.give _
  | start =>
      exact Run.Follows.bind hop fun _ => Run.Follows.give _
  | pass =>
      exact Run.Follows.bind hop fun _ => Run.Follows.give _
  | stop bounded =>
      exact Run.Follows.bind hop fun _ => Run.Follows.give _

end AcceptorHost
