import AcceptorHost.Proofs.Minutes
import AcceptorHost.Proofs.Recovery

/-!
# A dispatch and its snapshot

A dispatch calls the listeners that were registered when it began, whatever they do.  The
operations that they ask for and that others ask for in between call listeners, too, but these
are calls of other operations, less deep than the dispatch; so among the calls of the dispatch
itself there is one for each listener of the snapshot, and no other.
-/

namespace AcceptorHost

/-- What comes of a delivery that is logged when it fails is what comes of the delivery. -/
theorem Run.contained_state
    {S α : Type}
    (label : α → String)
    (deliver : α → Event → Run S Unit)
    (event : Event)
    (l : α)
    (s : S) :
    (contained label deliver event l s).state = (deliver l event s).state := by
  unfold contained
  cases hr : (deliver l event s).result with
  | ok u =>
      rw [handle_of_ok hr]
  | error k =>
      rw [handle_of_error hr]
      cases k <;> rfl

namespace World

variable {σ : Type} {ok : Reaction → Bool} {port : Port σ}

theorem attempts_ok
    {act : Operation → Run (World (Minuted σ) Audience) Value}
    (ops : List Operation)
    (w : World (Minuted σ) Audience) :
    (attempts act ops w).result = .ok () := by
  induction ops generalizing w with
  | nil =>
      rfl
  | cons op rest ih =>
      exact ih (act op w).state

/-- Once others have had their turn, the call is noted and the listener hears the event. -/
theorem callAmid_eq
    (act : Operation → Run (World (Minuted σ) Audience) Value)
    (depth : Nat)
    (l : Listener)
    (e : Event)
    (w : World (Minuted σ) Audience) :
    callAmid act depth l e w =
      let u := interlude act w
      let r := hear act l e (minute (.called depth l e) u.state).state
      ⟨u.trace ++ r.trace, r.result, r.state⟩ := by
  have hturn : (interlude act w).result = .ok () := attempts_ok _ _
  exact Run.bind_of_ok hturn

/-- A run along which only other operations call listeners notes no call of an operation that is
deeper. -/
theorem callsAt_of_follows
    {α : Type}
    {x : Run (World (Minuted σ) Audience) α}
    {bound depth : Nat}
    (hx : Run.Follows (minutingAmid bound ok) x)
    (hdepth : bound ≤ depth)
    {w : World (Minuted σ) Audience}
    (hw : Attended (fun _ => True) ok w) :
    callsAt depth (x w).state.port.minutes = callsAt depth w.port.minutes := by
  obtain ⟨⟨new, hminutes, hthrough⟩, -⟩ := hx w hw
  have hnone := hthrough.callsAt_eq_nil hdepth
  rw [hminutes, callsAt_append, hnone, List.append_nil]

theorem callsAt_called
    (depth : Nat)
    (l : Listener)
    (e : Event)
    (w : World (Minuted σ) Audience) :
    callsAt depth (minute (.called depth l e) w).state.port.minutes =
      callsAt depth w.port.minutes ++ [(l, e)] := by
  have hone : callsAt depth [⟨w.courier.listeners, .called depth l e⟩] = [(l, e)] := by
    simp [callsAt, Minute.callAt?]
  change callsAt depth (w.port.minutes ++ [_]) = _
  rw [callsAt_append, hone]

/-- A delivery is one call of its operation, and all that it leads to are calls of others. -/
theorem callsAt_deliverMinuted
    (depth : Nat)
    (l : Listener)
    (e : Event)
    {w : World (Minuted σ) Audience}
    (hw : Attended (fun _ => True) ok w) :
    callsAt depth (deliverMinuted port depth l e w).state.port.minutes =
      callsAt depth w.port.minutes ++ [(l, e)] := by
  cases depth with
  | zero =>
      exact callsAt_called 0 l e w
  | succ depth =>
      have hact (op : Operation) :
          Run.Follows (minutingAmid (depth + 1) ok) (performMinuted port depth op) :=
        minuting_performMinuted port depth op
      have hturn := minuting_interlude hact
      let u := (interlude (performMinuted port depth) w).state
      have hu : Attended (fun _ => True) ok u := (hturn w hw).2
      -- What others and the listener ask for is less deep, so only the delivery itself counts.
      change callsAt (depth + 1) (callAmid _ _ _ _ _).state.port.minutes = _
      rw [callAmid_eq]
      calc
        callsAt (depth + 1) (hear (performMinuted port depth) l e
            (minute (.called (depth + 1) l e) u).state).state.port.minutes =
          callsAt (depth + 1) (minute (.called (depth + 1) l e) u).state.port.minutes :=
            callsAt_of_follows (minuting_hear hact l e) (Nat.le_refl _) ⟨hu.1, hu.2⟩
        _ = callsAt (depth + 1) u.port.minutes ++ [(l, e)] := callsAt_called _ l e u
        _ = callsAt (depth + 1) w.port.minutes ++ [(l, e)] :=
            congrArg (· ++ [(l, e)]) (callsAt_of_follows hturn (Nat.le_refl _) hw)

/-- Deliveries of an operation halt only as it is planned. -/
theorem mild_deliverMinuted
    (port : Port σ)
    (depth : Nat) :
    Mild (fun _ => True) ok (minuting (depth + 1)) (deliverMinuted port depth) where
  follows := minuting_deliverMinuted port depth
  planned {l e w h} hw hr := by
    cases depth with
    | zero =>
        cases hr
    | succ depth =>
        have hact (op : Operation) :
            Run.Follows (minutingAmid (depth + 1) ok) (performMinuted port depth op) :=
          minuting_performMinuted port depth op
        have hu := (minuting_interlude hact w hw).2
        change (callAmid _ _ _ _ _).result = _ at hr
        rw [callAmid_eq] at hr
        exact hear_halts (w := (minute _ (interlude (performMinuted port depth) w).state).state)
          hu.2 hr

/-- Deliveries one after another are one call each, as long as they halt in faults. -/
theorem callsAt_dispatch
    (hfaults : ∀ h, ok (.halts h) = true → h.isFault = true)
    (depth : Nat)
    (e : Event)
    (ls : List Listener)
    {w : World (Minuted σ) Audience}
    (hw : Attended (fun _ => True) ok w) :
    callsAt depth
        (Run.dispatch Listener.name (deliverMinuted port depth) e ls w).state.port.minutes =
      callsAt depth w.port.minutes ++ ls.map (·, e) := by
  induction ls generalizing w with
  | nil =>
      exact (List.append_nil _).symm
  | cons l rest ih =>
      -- A delivery ends well once its fault is logged, so the rest of the row has its turn.
      have hmild : Mild (fun _ => True) ok (minuting (depth + 1)) (deliverMinuted port depth) :=
        mild_deliverMinuted port depth
      have hfirst :
          (Run.contained Listener.name (deliverMinuted port depth) e l w).result = .ok () :=
        Run.contained_ok fun h hr => hfaults h (hmild.planned hw hr)
      have hstate := Run.contained_state Listener.name (deliverMinuted port depth) e l w
      have hafter := (hmild.follows l e w hw).2
      have hbind := Run.bind_of_ok
        (f := fun _ => Run.dispatch Listener.name (deliverMinuted port depth) e rest) hfirst
      rw [← hstate] at hafter
      change callsAt depth ((_ >>= _ : Run _ Unit) w).state.port.minutes = _
      rw [hbind]
      calc
        _ = callsAt depth (deliverMinuted port depth l e w).state.port.minutes
              ++ rest.map (·, e) := hstate ▸ ih hafter
        _ = callsAt depth w.port.minutes ++ (l :: rest).map (·, e) := by
          rw [callsAt_deliverMinuted depth l e hw, List.append_assoc]
          rfl

/--
Whatever is registered, whatever listeners do when they are called, if only they fail in faults,
however deep their own dispatches are nested, and whatever others do between two deliveries: a
dispatch returns, it calls the listeners that were registered when it began, each once with the
event and in their order, and no other one, and it leaves the registry to the changes that
listeners and others have made meanwhile.
-/
theorem dispatch_delivers_snapshot
    (port : Port σ)
    (depth : Nat)
    (e : Event)
    {w : World (Minuted σ) Audience}
    (hplans : w.audience.Plans Reaction.isContained) :
    let r := performMinuted port depth (.dispatch e) w
    r.result = .ok .null
      ∧ (∃ new, r.state.port.minutes = w.port.minutes ++ new
        ∧ callsAt depth new = w.courier.listeners.listeners.map (·, e)
        ∧ (∀ m ∈ new, ∀ d l f, m.deed = .called d l f → d ≤ depth)
        ∧ r.state.courier.listeners = w.courier.listeners.after (changesIn new))
      ∧ ∀ v : World (Minuted σ) Audience, v.port.others = [] →
        let q := performMinuted port depth (.dispatch e) v
        performNested port depth (.dispatch e) v.plain = ⟨q.trace, q.result, q.state.plain⟩ := by
  intro r
  have hw : Attended (fun _ => True) Reaction.isContained w := ⟨trivial, hplans⟩
  have hfaults (h : Halt) (hh : (Reaction.halts h).isContained = true) : h.isFault = true := hh
  have hfired : (fire (deliverMinuted port depth) e w).result = .ok () :=
    (mild_deliverMinuted port depth).fire_ok (fun _ _ => minuting_emit _) hfaults e hw
  have hreport : r = performMinuted port depth (.dispatch e) w := rfl
  rw [performMinuted_eq] at hreport
  change r = (fire (deliverMinuted port depth) e >>= fun _ => Run.give Value.null) w at hreport
  rw [Run.bind_of_ok hfired] at hreport
  obtain ⟨⟨new, hminutes, hthrough⟩, -⟩ := minuting_performMinuted port depth (.dispatch e) w hw
  have hcalls :
      callsAt depth r.state.port.minutes =
        callsAt depth w.port.minutes ++ w.courier.listeners.listeners.map (·, e) := by
    rw [hreport]
    exact callsAt_dispatch hfaults depth e w.courier.listeners.listeners hw
  refine ⟨by rw [hreport]; rfl, ⟨new, hminutes, ?_, ?_, hthrough.eq_after⟩, fun v hothers =>
    performMinuted_plain port depth (.dispatch e) hothers⟩
  · have hnew : r.state.port.minutes = w.port.minutes ++ new := hminutes
    rw [hnew, callsAt_append] at hcalls
    exact List.append_cancel_left hcalls
  · exact fun m hm d l f hcalled => Nat.le_of_lt_succ (hthrough.depth_lt hm hcalled)

/-- The second listener is removed before its turn and is called all the same; those who come in
are called by the dispatch that the first one asks for. -/
theorem dispatch_delivers_snapshot_churning :
    let port := answeredPort .null (.steady Responder.ofOutcomes)
    let e : Event := .connectionFailure 3
    let r := performMinuted port 5 (.dispatch e) churning
    r.result = .ok .null
      ∧ callsAt 5 r.state.port.minutes = [(⟨"first", .int 0⟩, e), (⟨"second", .int 1⟩, e)]
      ∧ (callsAt 4 r.state.port.minutes).map (fun call => call.1.name) = ["first", "late", "same"]
      ∧ r.state.courier.listeners.listeners.map Listener.name = ["last"] := by
  intro port e r
  have hplans : churning.audience.Plans Reaction.isContained := by decide
  have hothers :
      (callsAt 4 r.state.port.minutes).map (fun call => call.1.name) =
        ["first", "late", "same"] := by decide +kernel
  have hlast : r.state.courier.listeners.listeners.map Listener.name = ["last"] := by
    decide +kernel
  have hstart : churning.port.minutes = [] := rfl
  have hregistered : churning.courier.listeners.listeners.map (·, e) =
      [(⟨"first", .int 0⟩, e), (⟨"second", .int 1⟩, e)] := rfl
  have hr : performMinuted port 5 (.dispatch e) churning = r := rfl
  have hdispatch := dispatch_delivers_snapshot port 5 e hplans
  rw [hr] at hdispatch
  obtain ⟨hresult, ⟨new, hminutes, hcalls, -⟩, -⟩ := hdispatch
  clear_value r
  rw [hstart, List.nil_append] at hminutes
  rw [← hminutes, hregistered] at hcalls
  exact ⟨hresult, hcalls, hothers, hlast⟩

end World

end AcceptorHost
