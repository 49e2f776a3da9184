import AcceptorHost.Proofs.NestedOperations
import AcceptorHost.Proofs.Simulations
import AcceptorHost.Proofs.TickLaws

/-!
# The minutes of a registry

Listeners may change the registry and tell further events in the middle of a dispatch, and
others may change it between two deliveries; so what has happened to the registry cannot be
told from the operations of a caller alone.  Here minutes are kept with the state of the port:
every change of the registry is noted when it is made, whoever asks for it, and every call of
a listener when it begins, with the registry as it is then.  Before each delivery others have
their turn, with operations of their own.  If they have none, the run without its minutes is
the run it was before (`performMinuted_plain`).  The registry is what the changes in the
minutes make of it, at the end and at every minute (`registry_follows_history`).
-/

namespace AcceptorHost

/-- What is noted: a change of the registry, or the call of a listener by an operation whose
listeners may act so many calls deep. -/
inductive Deed where
  | changed (c : Registry.Change Listener)
  | called (depth : Nat) (l : Listener) (e : Event)

/-- A deed, and the registry when it was done. -/
structure Minute where
  registry : Registry Listener
  deed : Deed

namespace Minute

/-- The change of the registry that is noted. -/
def change? (m : Minute) : Option (Registry.Change Listener) :=
  match m.deed with
  | .changed c => some c
  | .called _ _ _ => none

/-- The call that is noted of an operation whose listeners may act so many calls deep. -/
def callAt? (depth : Nat) (m : Minute) : Option (Listener × Event) :=
  match m.deed with
  | .changed _ => none
  | .called d l e => if d = depth then some (l, e) else none

end Minute

/-- The changes in some minutes. -/
def changesIn (minutes : List Minute) : List (Registry.Change Listener) :=
  minutes.filterMap Minute.change?

/-- The calls in some minutes of an operation whose listeners may act so many calls deep. -/
def callsAt (depth : Nat) (minutes : List Minute) : List (Listener × Event) :=
  minutes.filterMap (Minute.callAt? depth)

theorem callsAt_append
    (depth : Nat)
    (first second : List Minute) :
    callsAt depth (first ++ second) = callsAt depth first ++ callsAt depth second :=
  List.filterMap_append

/-- The state of a port, what others will ask for in their coming turns, and the minutes.  No
operation looks into the state of a port, so they all serve as they are. -/
structure Minuted (σ : Type) where
  line : σ
  others : List (List Operation)
  minutes : List Minute

/-- A run on a port leaves the minutes alone. -/
def Minuted.lift {σ α : Type} (x : Run σ α) : Run (Minuted σ) α :=
  Run.within Minuted.line (fun line m => { m with line := line }) x

/-- A port with whose state minutes are kept. -/
def Port.minuted {σ : Type} (port : Port σ) : Port (Minuted σ) where
  name := port.name
  isOpen m := port.isOpen m.line
  connect := Minuted.lift port.connect
  disconnect := Minuted.lift port.disconnect
  discard := Minuted.lift port.discard
  send bytes := Minuted.lift (port.send bytes)
  receive count timeout := Minuted.lift (port.receive count timeout)

namespace World

variable {σ : Type}

/-- A world without its minutes. -/
def plain (w : World (Minuted σ) Audience) : World σ Audience :=
  ⟨w.courier, w.port.line, w.audience⟩

/-- A deed is noted. -/
def minute (deed : Deed) : Run (World (Minuted σ) Audience) Unit :=
  Run.change fun w =>
    { w with
      port := { w.port with minutes := w.port.minutes ++ [⟨w.courier.listeners, deed⟩] } }

/-- Operations one after another, whatever comes of them. -/
def attempts (act : Operation → Run (World (Minuted σ) Audience) Value) :
    List Operation → Run (World (Minuted σ) Audience) Unit
  | [] => Run.give ()
  | op :: rest => do
      let _ ← Run.attempt (act op)
      attempts act rest

/-- Others have their turn. -/
def interlude (act : Operation → Run (World (Minuted σ) Audience) Value) :
    Run (World (Minuted σ) Audience) Unit := do
  let turn ← Run.look fun w => w.port.others.headD []
  Run.change fun w => { w with port := { w.port with others := w.port.others.tail } }
  attempts act turn

/-- The change of the registry that an operation makes is noted. -/
def minuteChange (op : Operation) : Run (World (Minuted σ) Audience) Unit :=
  match op.change? with
  | some c => minute (.changed c)
  | none => Run.give ()

/-- The call of a listener is noted. -/
def call (depth : Nat) (deliver : Deliver (Minuted σ) Audience) : Deliver (Minuted σ) Audience :=
  fun l e => do
    minute (.called depth l e)
    deliver l e

/-- Others have their turn, and then a listener is called that may ask for operations. -/
def callAmid (act : Operation → Run (World (Minuted σ) Audience) Value) (depth : Nat) :
    Deliver (Minuted σ) Audience := fun l e => do
  interlude act
  call depth (hear act) l e

/-- An operation whose listeners may act, so many calls deep, with its minutes. -/
def performMinuted (port : Port σ) : Nat → Operation → Run (World (Minuted σ) Audience) Value
  | 0, op => do
      minuteChange op
      perform port.minuted (call 0 hearOnly) op
  | depth + 1, op => do
      minuteChange op
      perform port.minuted (callAmid (performMinuted port depth) (depth + 1)) op

/-- How such an operation calls a listener. -/
def deliverMinuted (port : Port σ) : Nat → Deliver (Minuted σ) Audience
  | 0 => call 0 hearOnly
  | depth + 1 => callAmid (performMinuted port depth) (depth + 1)

theorem performMinuted_eq
    (port : Port σ)
    (depth : Nat)
    (op : Operation) :
    performMinuted port depth op =
      (minuteChange op >>= fun _ => perform port.minuted (deliverMinuted port depth) op) := by
  cases depth <;> rfl

/-- An operation whose listeners may act; its depth also allows for the turns of others. -/
def stepMinuted (port : Port σ) (op : Operation) : Run (World (Minuted σ) Audience) Value :=
  fun w => performMinuted port (w.audience.depth + w.port.others.length + 1) op w

/-- The world that operations one after another lead to. -/
def reachedMinuted (port : Port σ) :
    List Operation → World (Minuted σ) Audience → World (Minuted σ) Audience
  | [], w => w
  | op :: rest, w => reachedMinuted port rest (stepMinuted port op w).state

/-! ## Minutes change nothing else -/

/-- Without its minutes, and without others, a world is another one. -/
def Unattended (w : World (Minuted σ) Audience) (v : World σ Audience) : Prop :=
  w.port.others = [] ∧ w.plain = v

/-- The run of a world with minutes and the run of the world without. -/
abbrev unminuted : Kinship (World (Minuted σ) Audience) (World σ Audience) :=
  Kinship.abreast Unattended fun _ => true

theorem unminuted_look
    {α : Type}
    (f : Courier → α) :
    (unminuted (σ := σ)).kin (ask f) (ask f) := by
  refine Kinship.abreast_look ?_
  rintro w v ⟨-, rfl⟩
  rfl

theorem unminuted_change
    (f : Courier → Courier) :
    (unminuted (σ := σ)).kin (change f) (change f) := by
  refine Kinship.abreast_change ?_
  rintro w v ⟨hothers, rfl⟩
  exact ⟨hothers, rfl⟩

theorem unminuted_onPort
    {α : Type}
    (x : Run σ α) :
    unminuted.kin (onPort (Minuted.lift x)) (onPort x) := by
  rintro w v ⟨hothers, rfl⟩
  exact ⟨rfl, rfl, hothers, rfl⟩

/-- Where there are no others, their turn passes. -/
theorem interlude_of_unattended
    (act : Operation → Run (World (Minuted σ) Audience) Value)
    {w : World (Minuted σ) Audience}
    {v : World σ Audience}
    (h : Unattended w v) :
    interlude act w = ⟨[], .ok (), w⟩ := by
  obtain ⟨courier, ⟨line, others, minutes⟩, audience⟩ := w
  obtain ⟨hothers, -⟩ := h
  change others = [] at hothers
  subst hothers
  rfl

theorem unminuted_whole
    {port : Port σ}
    {deliver : Deliver (Minuted σ) Audience}
    {deliver' : Deliver σ Audience}
    (hdeliver : ∀ l e, unminuted.kin (deliver l e) (deliver' l e)) :
    unminuted.Whole port.minuted deliver port deliver' where
  ticks :=
    { log := fun _ _ => Kinship.abreast_emit _
      slept := fun _ => Kinship.abreast_emit _
      ask := fun f _ => unminuted_look f
      turned := unminuted_change _
      record := fun _ => unminuted_change _
      connect := unminuted_onPort _
      disconnect := unminuted_onPort _
      discard := unminuted_onPort _
      send := fun _ => unminuted_onPort _
      receive := fun _ _ => unminuted_onPort _
      fire := abreast_fire (fun w v h => congrArg (fun u => u.courier.listeners) h.2) hdeliver }
  loops :=
    { name_eq := rfl
      log := fun _ _ => Kinship.abreast_emit _
      died := fun _ => Kinship.abreast_emit _
      waited := fun _ => Kinship.abreast_emit _
      look := unminuted_look
      control := fun _ _ => unminuted_change _
      disconnect := unminuted_onPort _ }
  opening := by
    have hopen : (unminuted (σ := σ)).kin (Run.look fun w => port.minuted.isOpen w.port)
        (Run.look fun v => port.isOpen v.port) := by
      refine Kinship.abreast_look ?_
      rintro w v ⟨-, rfl⟩
      rfl
    exact unminuted.bind hopen fun _ => Kinship.ite (unminuted.give ()) (unminuted_onPort _)
  mailbox _ := unminuted_change _
  listeners _ := unminuted_change _

theorem unminuted_minuteChange
    (op : Operation) :
    (unminuted (σ := σ)).kin (minuteChange op) (Run.give ()) := by
  unfold minuteChange
  split
  · exact fun _ _ h => ⟨rfl, rfl, h⟩
  · exact unminuted.give ()

theorem unminuted_callAmid
    {act : Operation → Run (World (Minuted σ) Audience) Value}
    {act' : Operation → Run (World σ Audience) Value}
    (hact : ∀ op, unminuted.kin (act op) (act' op))
    (depth : Nat)
    (l : Listener)
    (e : Event) :
    unminuted.kin (callAmid act depth l e) (hear act' l e) := by
  intro w v hwv
  have hhear : unminuted.kin (hear act l e) (hear act' l e) := by
    have hplans (w : World (Minuted σ) Audience) (v : World σ Audience) (_ : Unattended w v) :
        v.audience.Plans fun _ => true := fun _ _ _ _ _ _ => rfl
    refine abreast_hear ?_ hplans ?_ (fun op _ => hact op) l e
    · rintro w v ⟨-, rfl⟩
      rfl
    · rintro w v who ⟨hothers, rfl⟩
      exact ⟨hothers, rfl⟩
  have hturn : callAmid act depth l e w = call depth (hear act) l e w :=
    Run.bind_congr (y := Run.give ()) (interlude_of_unattended act hwv) _
  rw [hturn]
  exact hhear (minute (.called depth l e) w).state v hwv

/-- Without its minutes an operation amid no others is the operation. -/
theorem unminuted_performMinuted
    (port : Port σ) :
    ∀ (depth : Nat) (op : Operation),
      unminuted.kin (performMinuted port depth op) (performNested port depth op)
  | 0, op =>
      unminuted.bind (y := Run.give ()) (unminuted_minuteChange op) fun _ =>
        (unminuted_whole fun _ _ _ _ h => ⟨rfl, rfl, h⟩).perform op
  | depth + 1, op =>
      unminuted.bind (y := Run.give ()) (unminuted_minuteChange op) fun _ =>
        (unminuted_whole
          (unminuted_callAmid (unminuted_performMinuted port depth) (depth + 1))).perform op

theorem performMinuted_plain
    (port : Port σ)
    (depth : Nat)
    (op : Operation)
    {w : World (Minuted σ) Audience}
    (hothers : w.port.others = []) :
    let r := performMinuted port depth op w
    performNested port depth op w.plain = ⟨r.trace, r.result, r.state.plain⟩ := by
  obtain ⟨hresult, htrace, -, hplain⟩ :=
    Kinship.abreast_exact (unminuted_performMinuted port depth op) ⟨hothers, rfl⟩
  change _ = Report.mk (performMinuted port depth op w).trace _ _
  rw [hresult, htrace, hplain]

end World

/-! ## The registry goes through its minutes -/

instance : EquivBEq Listener where
  rfl {l} := beq_self_eq_true l.key
  symm h := BEq.symm (α := Value) h
  trans h k := BEq.trans (α := Value) h k

/-- A registry goes through minutes if it is noted in each as it is then, and changes as it is
noted and not otherwise.  The calls are of operations whose listeners may act less than so many
calls deep. -/
inductive Registry.Through (bound : Nat) :
    Registry Listener → List Minute → Registry Listener → Prop
  | nil (r : Registry Listener) : Through bound r [] r
  | called {r q : Registry Listener} {more : List Minute} {depth : Nat} (l : Listener) (e : Event) :
      depth < bound → Through bound r more q → Through bound r (⟨r, .called depth l e⟩ :: more) q
  | changed {r q : Registry Listener} {more : List Minute} (c : Registry.Change Listener) :
      Through bound (r.changed c) more q → Through bound r (⟨r, .changed c⟩ :: more) q

namespace Registry.Through

variable {bound : Nat} {r q k : Registry Listener} {first second : List Minute}

theorem append
    (h : Through bound r first q)
    (hmore : Through bound q second k) :
    Through bound r (first ++ second) k := by
  induction h with
  | nil r =>
      exact hmore
  | called l e hdepth hrest ih =>
      exact .called l e hdepth (ih hmore)
  | changed c hrest ih =>
      exact .changed c (ih hmore)

theorem mono
    {larger : Nat}
    (hbound : bound ≤ larger)
    (h : Through bound r first q) :
    Through larger r first q := by
  induction h with
  | nil r =>
      exact .nil r
  | called l e hdepth hrest ih =>
      exact .called l e (Nat.lt_of_lt_of_le hdepth hbound) ih
  | changed c hrest ih =>
      exact .changed c ih

/-- At the end a registry is what the changes have made of it. -/
theorem eq_after
    (h : Through bound r first q) :
    q = r.after (changesIn first) := by
  induction h with
  | nil r =>
      rfl
  | called l e hdepth hrest ih =>
      exact ih
  | changed c hrest ih =>
      exact ih

/-- At every minute a registry is what the changes before have made of it. -/
theorem registry_eq
    {front rest : List Minute}
    {m : Minute}
    (h : Through bound r (front ++ m :: rest) q) :
    m.registry = r.after (changesIn front) := by
  induction front generalizing r with
  | nil =>
      cases h with
      | called l e hdepth hrest =>
          rfl
      | changed c hrest =>
          rfl
  | cons k front ih =>
      cases h with
      | called l e hdepth hrest =>
          exact ih hrest
      | changed c hrest =>
          exact ih hrest

/-- Only operations below the bound call listeners. -/
theorem depth_lt
    (h : Through bound r first q)
    {m : Minute}
    (hm : m ∈ first)
    {depth : Nat}
    {l : Listener}
    {e : Event}
    (hcalled : m.deed = .called depth l e) :
    depth < bound := by
  induction h with
  | nil r =>
      cases hm
  | called k d hdepth hrest ih =>
      rcases List.mem_cons.mp hm with rfl | hm
      · cases hcalled
        exact hdepth
      · exact ih hm
  | changed c hrest ih =>
      rcases List.mem_cons.mp hm with rfl | hm
      · cases hcalled
      · exact ih hm

theorem callsAt_eq_nil
    (h : Through bound r first q)
    {depth : Nat}
    (hdepth : bound ≤ depth) :
    callsAt depth first = [] := by
  refine List.filterMap_eq_nil_iff.mpr fun m hm => ?_
  unfold Minute.callAt?
  split
  · rfl
  · rename_i d l e hcalled
    exact if_neg (Nat.ne_of_lt (Nat.lt_of_lt_of_le (h.depth_lt hm hcalled) hdepth))

end Registry.Through

namespace World

variable {σ : Type} {bound : Nat} {ok : Reaction → Bool} {port : Port σ}

/-- Along a run the minutes grow, and the registry goes through them. -/
def minuting (bound : Nat) : Passage (World (Minuted σ) Audience) where
  holds w _ v := ∃ new, v.port.minutes = w.port.minutes ++ new
    ∧ w.courier.listeners.Through bound new v.courier.listeners
  stay w := ⟨[], (List.append_nil _).symm, .nil _⟩
  onward := by
    rintro w t v u x ⟨first, hfirst, hthrough⟩ ⟨second, hsecond, hmore⟩
    refine ⟨first ++ second, ?_, hthrough.append hmore⟩
    rw [hsecond, hfirst, List.append_assoc]

/-- So they do among listeners whose planned reactions pass a test. -/
abbrev minutingAmid (bound : Nat) (ok : Reaction → Bool) : Passage (World (Minuted σ) Audience) :=
  (minuting bound).amid (fun _ => True) ok

/-- A run that touches neither the minutes nor the registry nor the plans of listeners. -/
theorem minuting_of_same
    {α : Type}
    {x : Run (World (Minuted σ) Audience) α}
    (hminutes : ∀ w, (x w).state.port.minutes = w.port.minutes)
    (hregistry : ∀ w, (x w).state.courier.listeners = w.courier.listeners)
    (haudience : ∀ w, (x w).state.audience = w.audience) :
    Run.Follows (minutingAmid bound ok) x := by
  intro w hw
  refine ⟨⟨[], by rw [hminutes w, List.append_nil], ?_⟩, trivial, ?_⟩
  · rw [hregistry w]
    exact .nil _
  · rw [haudience w]
    exact hw.2

theorem minuting_emit
    (e : Entry) :
    Run.Follows (minutingAmid (σ := σ) bound ok) (Run.emit e) :=
  minuting_of_same (fun _ => rfl) (fun _ => rfl) fun _ => rfl

theorem minuting_change
    {f : Courier → Courier}
    (hf : ∀ c, (f c).listeners = c.listeners) :
    Run.Follows (minutingAmid (σ := σ) bound ok) (change f) :=
  minuting_of_same (fun _ => rfl) (fun w => hf w.courier) fun _ => rfl

theorem minuting_onPort
    {α : Type}
    (x : Run σ α) :
    Run.Follows (minutingAmid bound ok) (onPort (Minuted.lift x)) :=
  minuting_of_same (fun _ => rfl) (fun _ => rfl) fun _ => rfl

theorem minuting_mono
    {α : Type}
    {x : Run (World (Minuted σ) Audience) α}
    {larger : Nat}
    (hbound : bound ≤ larger)
    (h : Run.Follows (minutingAmid bound ok) x) :
    Run.Follows (minutingAmid larger ok) x := by
  intro w hw
  obtain ⟨⟨new, hminutes, hthrough⟩, hafter⟩ := h w hw
  exact ⟨⟨new, hminutes, hthrough.mono hbound⟩, hafter⟩

theorem minuting_called
    {depth : Nat}
    (hdepth : depth < bound)
    (l : Listener)
    (e : Event) :
    Run.Follows (minutingAmid (σ := σ) bound ok) (minute (.called depth l e)) :=
  fun w hw => ⟨⟨[⟨w.courier.listeners, .called depth l e⟩], rfl, .called l e hdepth (.nil _)⟩, hw⟩

theorem minuting_attempts
    {act : Operation → Run (World (Minuted σ) Audience) Value}
    (hact : ∀ op, Run.Follows (minutingAmid bound ok) (act op)) :
    ∀ ops : List Operation, Run.Follows (minutingAmid bound ok) (attempts act ops)
  | [] => Run.Follows.give ()
  | op :: rest => (hact op).attempt.bind fun _ => minuting_attempts hact rest

theorem minuting_interlude
    {act : Operation → Run (World (Minuted σ) Audience) Value}
    (hact : ∀ op, Run.Follows (minutingAmid bound ok) (act op)) :
    Run.Follows (minutingAmid bound ok) (interlude act) :=
  (Run.Follows.look _).bind fun turn =>
    Run.Follows.bind (minuting_of_same (fun _ => rfl) (fun _ => rfl) fun _ => rfl) fun _ =>
      minuting_attempts hact turn

theorem minuting_hear
    {act : Operation → Run (World (Minuted σ) Audience) Value}
    (hact : ∀ op, Run.Follows (minutingAmid bound ok) (act op))
    (l : Listener)
    (e : Event) :
    Run.Follows (minutingAmid bound ok) (hear act l e) :=
  follows_hear (fun w _ => (minuting bound).stay w) (fun _ _ => minuting_emit _)
    (fun _ _ => minuting_emit _) (fun op _ => hact op) l e

theorem minuting_permits
    {deliver : Deliver (Minuted σ) Audience}
    (hdeliver : ∀ l e, Run.Follows (minutingAmid bound ok) (deliver l e)) :
    (minutingAmid bound ok).Permits port.minuted deliver where
  log _ _ _ := minuting_emit _
  failed _ _ := minuting_emit _
  slept _ := minuting_emit _
  mailbox _ := minuting_change fun _ => rfl
  record _ := minuting_change fun _ => rfl
  connect := minuting_onPort _
  disconnect := minuting_onPort _
  discard := minuting_onPort _
  receive _ _ := minuting_onPort _
  delivered := hdeliver
  turned := minuting_change fun _ => rfl
  send _ := minuting_onPort _

/-- An operation changes the registry as it is noted, and not otherwise. -/
theorem minuting_perform
    {deliver : Deliver (Minuted σ) Audience}
    (hdeliver : ∀ l e, Run.Follows (minutingAmid bound ok) (deliver l e))
    (op : Operation) :
    Run.Follows (minutingAmid bound ok)
      (minuteChange op >>= fun _ => perform port.minuted deliver op) := by
  have hpermits : (minutingAmid bound ok).Permits port.minuted deliver := minuting_permits hdeliver
  have hconcludes : (minutingAmid bound ok).Concludes port.minuted :=
    Passage.concludes_of_emit (fun _ _ => minuting_emit _) (fun _ => minuting_change fun _ => rfl)
      (minuting_onPort _)
  intro w
  cases hchange : op.change? with
  | some c =>
      have hnoted :
          (minuteChange op >>= fun _ => perform port.minuted deliver op) w =
            perform port.minuted deliver op (minute (.changed c) w).state := by
        unfold minuteChange
        rw [hchange]
        rfl
      rw [hnoted, perform_of_change port.minuted deliver hchange]
      exact fun hw => ⟨⟨[⟨w.courier.listeners, .changed c⟩], rfl, .changed c (.nil _)⟩, hw⟩
  | none =>
      have hsilent :
          (minuteChange op >>= fun _ => perform port.minuted deliver op) w =
            perform port.minuted deliver op w := by
        unfold minuteChange
        rw [hchange]
        rfl
      have hperform : Run.Follows (minutingAmid bound ok) (perform port.minuted deliver op) :=
        hconcludes.perform (fun h => by rw [hchange] at h; cases h) (fun e _ => hpermits.fire e)
          fun _ => hpermits.tick
      rw [hsilent]
      exact hperform w

/-- However deep the calls of listeners are nested, the registry goes through the minutes. -/
theorem minuting_deliverMinuted
    (port : Port σ) :
    ∀ (depth : Nat) (l : Listener) (e : Event),
      Run.Follows (minutingAmid (depth + 1) ok) (deliverMinuted port depth l e)
  | 0, l, e => (minuting_called (Nat.lt_succ_self 0) l e).bind fun _ => minuting_emit _
  | depth + 1, l, e => by
      have hact (op : Operation) :
          Run.Follows (minutingAmid (depth + 1 + 1) ok) (performMinuted port depth op) := by
        rw [performMinuted_eq]
        exact minuting_mono (Nat.le_succ _)
          (minuting_perform (minuting_deliverMinuted port depth) op)
      exact (minuting_interlude hact).bind fun _ =>
        (minuting_called (Nat.lt_succ_self _) l e).bind fun _ => minuting_hear hact l e

theorem minuting_performMinuted
    (port : Port σ)
    (depth : Nat)
    (op : Operation) :
    Run.Follows (minutingAmid (depth + 1) ok) (performMinuted port depth op) := by
  rw [performMinuted_eq]
  exact minuting_perform (minuting_deliverMinuted port depth) op

/-- In a row of operations the minutes grow, and the registry goes through them. -/
theorem through_reachedMinuted
    (port : Port σ)
    (ops : List Operation)
    (w : World (Minuted σ) Audience) :
    ∃ bound new, (reachedMinuted port ops w).port.minutes = w.port.minutes ++ new
      ∧ w.courier.listeners.Through bound new (reachedMinuted port ops w).courier.listeners := by
  induction ops generalizing w with
  | nil =>
      exact ⟨0, [], (List.append_nil _).symm, .nil _⟩
  | cons op rest ih =>
      have hplans : w.audience.Plans fun _ => true := fun _ _ _ _ _ _ => rfl
      obtain ⟨⟨first, hfirst, hthrough⟩, -⟩ :=
        minuting_performMinuted port (w.audience.depth + w.port.others.length + 1) op w
          ⟨trivial, hplans⟩
      obtain ⟨bound, second, hsecond, hmore⟩ := ih (stepMinuted port op w).state
      refine ⟨max (w.audience.depth + w.port.others.length + 1 + 1) bound, first ++ second, ?_,
        (hthrough.mono (Nat.le_max_left _ _)).append (hmore.mono (Nat.le_max_right _ _))⟩
      exact hsecond.trans ((congrArg (· ++ second) hfirst).trans (List.append_assoc _ _ _))

/--
Whatever has happened to a registry, and whatever the equivalence by which listeners are equal:
the registered listeners are pairwise unequal, a listener is registered if and only if an equal
one was subscribed and nobody equal removed since, and every listener goes back to the first
subscription of its kind that stands, in the order of these.  This holds of a courier at every
moment of a row of operations, of what callers, listeners and others have asked for until then.
-/
theorem registry_follows_history
    {α : Type}
    [BEq α]
    [EquivBEq α]
    (history : List (Registry.Change α))
    (port : Port σ)
    (ops : List Operation)
    {before : List (Registry.Change Listener)}
    {w : World (Minuted σ) Audience}
    (hbefore : w.courier.listeners = Registry.empty.after before) :
    let v := reachedMinuted port ops w
    (Registry.empty.after history).Reflects history
      ∧ (∃ new, v.port.minutes = w.port.minutes ++ new
        ∧ v.courier.listeners.Reflects (before ++ changesIn new)
        ∧ ∀ front m rest, new = front ++ m :: rest →
          m.registry.Reflects (before ++ changesIn front))
      ∧ ∀ op (u : World (Minuted σ) Audience), u.port.others = [] →
        let r := stepMinuted port op u
        step port op u.plain = ⟨r.trace, r.result, r.state.plain⟩ := by
  intro v
  obtain ⟨bound, new, hminutes, hthrough⟩ := through_reachedMinuted port ops w
  have hafter (changes : List (Registry.Change Listener)) :
      (w.courier.listeners.after changes).Reflects (before ++ changes) := by
    rw [hbefore, ← Registry.after_append]
    exact Registry.reflects_after _
  refine ⟨Registry.reflects_after history, ⟨new, hminutes, ?_, ?_⟩, fun op u hothers => ?_⟩
  · rw [hthrough.eq_after]
    exact hafter _
  · rintro front m rest rfl
    rw [hthrough.registry_eq]
    exact hafter _
  · have hstep : stepMinuted port op u = performMinuted port (u.audience.depth + 1) op u := by
      unfold stepMinuted
      rw [hothers]
      rfl
    rw [hstep]
    exact performMinuted_plain port (u.audience.depth + 1) op hothers

/-- A world with others, whose coming turns are given, and nothing in the minutes yet. -/
def attended (others : List (List Operation)) (w : World σ Audience) :
    World (Minuted σ) Audience := ⟨w.courier, ⟨w.port, others, []⟩, w.audience⟩

/-- Two listeners who change the registry when they are called, and others who clear it. -/
def churning : World (Minuted (AnsweredLine (List (Except Fault (List UInt8))))) Audience :=
  (unused []
    [⟨⟨"first", .int 0⟩, [[.performs (.unsubscribe ⟨"same", .int 1⟩),
        .performs (.subscribe ⟨"same", .int 1⟩), .performs (.dispatch (.connectionFailure 7))]]⟩,
      ⟨⟨"second", .int 1⟩,
        [[.performs (.unsubscribe ⟨"second", .int 1⟩), .halts (.fault .wrongType)]]⟩]).attended
    [[.subscribe ⟨"late", .int 2⟩], [.unsubscribeAll], [.subscribe ⟨"last", .int 2⟩]]

/-- The last listener that others subscribe is the one that stays when an equal one comes later. -/
theorem registry_follows_history_churning :
    let port := answeredPort .null (.steady Responder.ofOutcomes)
    let ops : List Operation := [.dispatch (.connectionFailure 3), .subscribe ⟨"next", .int 2⟩]
    let before : List (Registry.Change Listener) :=
      [.subscribed ⟨"first", .int 0⟩, .subscribed ⟨"second", .int 1⟩]
    let v := reachedMinuted port ops churning
    v.courier.listeners.listeners.map Listener.name = ["last"]
      ∧ v.courier.listeners.Reflects (before ++ changesIn v.port.minutes) := by
  intro port ops before v
  have hlast : v.courier.listeners.listeners.map Listener.name = ["last"] := by decide +kernel
  have hbefore : churning.courier.listeners = Registry.empty.after before := rfl
  obtain ⟨-, ⟨new, hminutes, hreflects, -⟩, -⟩ :=
    registry_follows_history ([] : List (Registry.Change Listener)) port ops hbefore
  have hnew : v.port.minutes = new := hminutes
  rw [hnew]
  exact ⟨hlast, hreflects⟩

end World

end AcceptorHost
