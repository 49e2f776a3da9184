import AcceptorHost.Proofs.LockStep
import AcceptorHost.Proofs.Observers

/-!
# Restarts

A stop that waits and a start put a running loop back to where it was, but for a port that is
closed.  Over a port whose openings and closings always succeed and show nowhere else, worlds
that are the same but for such a port are alike (`World.Alike`).  What comes to no tick is the
same in both of them.  A tick on the closed port is the opening and then the tick on the open
one, after which the ports are open or closed alike.  So restarts that are inserted into a row
of operations (`World.Restarts`) show in nothing but themselves and that opening.
-/

namespace AcceptorHost

/-- A call does the same in states that are seen alike and are open or closed alike, and it halts
only in faults. -/
structure Port.Consistent {σ ρ α : Type} (port : Port σ) (view : σ → ρ) (x : Run σ α) : Prop where
  result_eq : ∀ {s t}, view s = view t → port.isOpen s = port.isOpen t →
    (x s).result = (x t).result
  view_eq : ∀ {s t}, view s = view t → port.isOpen s = port.isOpen t →
    view (x s).state = view (x t).state
  isOpen_eq : ∀ {s t}, view s = view t → port.isOpen s = port.isOpen t →
    port.isOpen (x s).state = port.isOpen (x t).state
  contained : ∀ s h, (x s).result = .error h → h.isFault = true

/-- A port can always be opened and closed, which shows nowhere else, and its other calls are
consistent. -/
structure Port.Reopens {σ ρ : Type} (port : Port σ) (view : σ → ρ) : Prop where
  connects : ∀ s, (port.connect s).result = .ok ()
  opened : ∀ s, port.isOpen (port.connect s).state = true
  connect_view : ∀ s, view (port.connect s).state = view s
  closes : ∀ s, (port.disconnect s).result = .ok ()
  closed : ∀ s, port.isOpen (port.disconnect s).state = false
  disconnect_view : ∀ s, view (port.disconnect s).state = view s
  discard : port.Consistent view port.discard
  send : ∀ bs, port.Consistent view (port.send bs)
  receive : ∀ n timeout, port.Consistent view (port.receive n timeout)

theorem Port.Reopens.dependable
    {σ ρ : Type}
    {port : Port σ}
    {view : σ → ρ}
    (h : port.Reopens view) :
    port.Dependable where
  closes := h.closes
  closed := h.closed
  connect s k hr := by
    rw [h.connects] at hr
    cases hr
  discard := h.discard.contained
  send bs := (h.send bs).contained
  receive n timeout := (h.receive n timeout).contained

/-! ## Runs that begin with something -/

/-- A report with some entries before it. -/
def Report.after
    {S α : Type}
    (t : Trace)
    (r : Report S α) :
    Report S α :=
  ⟨t ++ r.trace, r.result, r.state⟩

namespace Run

variable {S α β : Type} {x : Run S α} {s r : S} {t : Trace}

/-- What begins with some entries and then goes on as elsewhere does so in a longer run. -/
theorem bind_after
    (h : x s = (x r).after t)
    (f : α → Run S β) :
    (x >>= f) s = ((x >>= f) r).after t := by
  cases hr : (x r).result with
  | ok a =>
      have hs : (x s).result = .ok a := by rw [h]; exact hr
      rw [bind_of_ok hs, bind_of_ok hr, h]
      exact congrArg (Report.mk · _ _) (List.append_assoc ..)
  | error e =>
      have hs : (x s).result = .error e := by rw [h]; exact hr
      rw [bind_of_error hs, bind_of_error hr, h]
      rfl

theorem handle_after
    (h : x s = (x r).after t)
    (f : Halt → Run S α) :
    handle x f s = (handle x f r).after t := by
  cases hr : (x r).result with
  | ok a =>
      have hs : (x s).result = .ok a := by rw [h]; exact hr
      rw [handle_of_ok hs, handle_of_ok hr, h]
      rfl
  | error e =>
      have hs : (x s).result = .error e := by rw [h]; exact hr
      rw [handle_of_error hs, handle_of_error hr, h]
      exact congrArg (Report.mk · _ _) (List.append_assoc ..)

theorem attempt_after
    (h : x s = (x r).after t) :
    attempt x s = (attempt x r).after t := by
  simp only [attempt, h, Report.after]

end Run

namespace World

variable {σ ρ : Type} {port : Port σ} {view : σ → ρ}

/-! ## Ticks on a closed port -/

/-- A world whose port is opened. -/
def opened (port : Port σ) (w : World σ Audience) : World σ Audience :=
  { w with port := (port.connect w.port).state }

/-- A tick on a closed port is the opening and then the tick on the open port. -/
theorem tick_of_closed
    (hport : port.Reopens view)
    (deliver : Deliver σ Audience)
    {w : World σ Audience}
    (hclosed : port.isOpen w.port = false) :
    tick port.recorded deliver w =
      (tick port.recorded deliver (opened port w)).after [.port .connect] := by
  have hopening : ensureOpen port.recorded w.taken =
      (ensureOpen port.recorded (opened port w).taken).after [.port .connect] := by
    have hfirst : ensureOpen port.recorded w.taken =
        (if port.isOpen w.port then Run.give () else onPort port.recorded.connect) w.taken := rfl
    have hsecond : ensureOpen port.recorded (opened port w).taken =
        (if port.isOpen (port.connect w.port).state then Run.give ()
          else onPort port.recorded.connect) (opened port w).taken := rfl
    rw [hfirst, hsecond, hclosed, hport.opened]
    exact congrArg (Report.mk _ · _) (hport.connects w.port)
  rw [tick_eq, tick_eq]
  exact Run.bind_after (Run.handle_after (Run.bind_after hopening _) _) _

/-- So is a pass that comes to a tick. -/
theorem step_pass_of_closed
    (hport : port.Reopens view)
    {w : World σ Audience}
    (hticks : Operation.pass.ticks w.courier = true)
    (hclosed : port.isOpen w.port = false) :
    step port.recorded .pass w =
      (step port.recorded .pass (opened port w)).after [.port .connect] := by
  have htick : tickAmong port.recorded w.atWork =
      (tickAmong port.recorded (opened port w).atWork).after [.port .connect] :=
    tick_of_closed hport _ (w := w.atWork) hclosed
  have hfirst : step port.recorded .pass w = _ := step_of_tick hticks
  have hsecond : step port.recorded .pass (opened port w) = _ := step_of_tick hticks
  rw [hfirst, hsecond]
  exact Run.bind_after (Run.attempt_after htick) _

/-! ## Worlds that are alike -/

/-- Worlds that are the same but that the port of the second may be closed while that of the
first is open; if they are even, it is not. -/
structure Alike (port : Port σ) (view : σ → ρ) (even : Bool) (v w : World σ Audience) : Prop where
  courier : v.courier = w.courier
  audience : v.audience = w.audience
  view_eq : view v.port = view w.port
  even_eq : even = true → port.isOpen v.port = port.isOpen w.port
  opens : port.isOpen w.port = true → port.isOpen v.port = true
  plans : w.audience.Plans Reaction.observes

/-- Worlds that are alike go abreast where runs return and leave the same. -/
abbrev alike (port : Port σ) (view : σ → ρ) (even : Bool) :
    Kinship (World σ Audience) (World σ Audience) :=
  Kinship.abreast (Alike port view even) fun _ => true

section Abreast

variable {even : Bool}

theorem alike_ask
    {α : Type}
    (f : Courier → α) :
    (alike port view even).kin (ask f : Run (World σ Audience) α) (ask f) :=
  Kinship.abreast_look fun v w hvw => by rw [hvw.courier]

theorem alike_change
    (f : Courier → Courier) :
    (alike port view even).kin (change f : Run (World σ Audience) Unit) (change f) :=
  Kinship.abreast_change fun _ _ hvw =>
    ⟨congrArg f hvw.courier, hvw.audience, hvw.view_eq, hvw.even_eq, hvw.opens, hvw.plans⟩

theorem alike_disconnect
    (hport : port.Reopens view) :
    (alike port view even).kin (onPort port.recorded.disconnect)
      (onPort port.recorded.disconnect) := by
  intro v w hvw
  have hclosed : port.isOpen (port.disconnect v.port).state =
      port.isOpen (port.disconnect w.port).state := by
    rw [hport.closed, hport.closed]
  refine ⟨(hport.closes v.port).trans (hport.closes w.port).symm, rfl, hvw.courier, hvw.audience,
    ?_, fun _ => hclosed, fun h => hclosed.trans h, hvw.plans⟩
  change view (port.disconnect v.port).state = view (port.disconnect w.port).state
  rw [hport.disconnect_view, hport.disconnect_view, hvw.view_eq]

theorem alike_connect
    (hport : port.Reopens view) :
    (alike port view even).kin (onPort port.recorded.connect) (onPort port.recorded.connect) := by
  intro v w hvw
  have hopened : port.isOpen (port.connect v.port).state =
      port.isOpen (port.connect w.port).state := by
    rw [hport.opened, hport.opened]
  refine ⟨(hport.connects v.port).trans (hport.connects w.port).symm, rfl, hvw.courier,
    hvw.audience, ?_, fun _ => hopened, fun h => hopened.trans h, hvw.plans⟩
  change view (port.connect v.port).state = view (port.connect w.port).state
  rw [hport.connect_view, hport.connect_view, hvw.view_eq]

/-- What is consistent goes abreast in even worlds. -/
theorem alike_consistent
    {α : Type}
    {x : Run σ α}
    (hx : port.Consistent view x)
    (c : PortCall) :
    (alike port view true).kin (onPort (x.recorded c)) (onPort (x.recorded c)) := by
  intro v w hvw
  have hsame := hvw.even_eq rfl
  have hopen := hx.isOpen_eq hvw.view_eq hsame
  exact ⟨hx.result_eq hvw.view_eq hsame, rfl, hvw.courier, hvw.audience,
    hx.view_eq hvw.view_eq hsame, fun _ => hopen, fun h => hopen.trans h, hvw.plans⟩

/-- A start and a stop go abreast wherever the ports are. -/
theorem alike_loops
    (hport : port.Reopens view) :
    (alike port view even).Loops port.recorded port.recorded where
  name_eq := rfl
  log _ _ := Kinship.abreast_emit _
  died _ := Kinship.abreast_emit _
  waited _ := Kinship.abreast_emit _
  look f := alike_ask f
  control _ _ := alike_change _
  disconnect := alike_disconnect hport

/-- Everything goes abreast in even worlds. -/
theorem alike_whole
    (hport : port.Reopens view)
    (act act' : Operation → Run (World σ Audience) Value) :
    (alike port view true).Whole port.recorded (hear act) port.recorded (hear act') where
  ticks :=
    { log := fun _ _ => Kinship.abreast_emit _
      slept := fun _ => Kinship.abreast_emit _
      ask := fun f _ => alike_ask f
      turned := alike_change _
      record := fun _ => alike_change _
      connect := alike_connect hport
      disconnect := alike_disconnect hport
      discard := alike_consistent hport.discard _
      send := fun bs => alike_consistent (hport.send bs) _
      receive := fun n timeout => alike_consistent (hport.receive n timeout) _
      fire := abreast_fire (fun _ _ hvw => congrArg Courier.listeners hvw.courier)
        (abreast_hear (fun _ _ hvw => hvw.audience) (fun _ _ hvw => hvw.plans)
          (fun _ _ who hvw => ⟨hvw.courier, by rw [hvw.audience], hvw.view_eq, hvw.even_eq,
            hvw.opens, (Audience.next_plans hvw.plans who).2⟩)
          fun _ hop => by cases hop) }
  loops := alike_loops hport
  opening := by
    have hlook : (alike port view true).kin
        (Run.look fun w : World σ Audience => port.isOpen w.port)
        (Run.look fun w : World σ Audience => port.isOpen w.port) :=
      Kinship.abreast_look fun v w hvw => hvw.even_eq rfl
    exact (alike port view true).bind hlook fun _ =>
      (alike port view true).ite ((alike port view true).give ()) (alike_connect hport)
  mailbox _ := alike_change _
  listeners _ := alike_change _

end Abreast

/-! ## One operation -/

/-- In even worlds every operation reports the same. -/
theorem even_step
    (hport : port.Reopens view)
    (op : Operation)
    {v w : World σ Audience}
    (hvw : Alike port view true v w) :
    (step port.recorded op v).result = (step port.recorded op w).result
      ∧ (step port.recorded op v).trace = (step port.recorded op w).trace
      ∧ Alike port view true (step port.recorded op v).state (step port.recorded op w).state :=
  Kinship.abreast_exact
    ((alike_whole hport (performNested port.recorded v.audience.depth)
      (performNested port.recorded w.audience.depth)).perform op) hvw

/-- Where it comes to no tick, an operation of a lock-step run reports the same in worlds that are
alike. -/
theorem alike_step_of_idle
    (hport : port.Reopens view)
    {op : Operation}
    (hop : op.isLockStep = true)
    {v w : World σ Audience}
    (hvw : Alike port view false v w)
    (hticks : op.ticks v.courier = false) :
    (step port.recorded op v).result = (step port.recorded op w).result
      ∧ (step port.recorded op v).trace = (step port.recorded op w).trace
      ∧ Alike port view false (step port.recorded op v).state (step port.recorded op w).state := by
  let K : Kinship (World σ Audience) (World σ Audience) := alike port view false
  have hrounds : K.Rounds port.recorded port.recorded := (alike_loops hport).rounds
  have hkin {x : Run (World σ Audience) Value} (hx : K.kin x x)
      (hv : step port.recorded op v = x v) (hw : step port.recorded op w = x w) :
      (step port.recorded op v).result = (step port.recorded op w).result
        ∧ (step port.recorded op v).trace = (step port.recorded op w).trace
        ∧ Alike port view false (step port.recorded op v).state
          (step port.recorded op w).state := by
    rw [hv, hw]
    exact Kinship.abreast_exact hx hvw
  rcases op.cases_of_isLockStep hop with hkind | rfl | rfl | ⟨bounded, rfl⟩
  · rw [step_beside port.recorded hkind, step_beside port.recorded hkind, hvw.courier]
    exact ⟨rfl, rfl, rfl, hvw.audience, hvw.view_eq, hvw.even_eq, hvw.opens, hvw.plans⟩
  · exact hkin (K.bind hrounds.start fun _ => K.give Value.null) rfl rfl
  · have hticks' : Operation.pass.ticks w.courier = false := hvw.courier ▸ hticks
    exact hkin (K.bind hrounds.idlePass fun _ => K.give Value.null)
      (Run.bind_congr (pass_of_idle hticks) _) (Run.bind_congr (pass_of_idle hticks') _)
  · exact hkin (K.bind (hrounds.requestStop bounded) fun stopped => K.give (Value.bool stopped))
      rfl rfl

/-- What a tick leaves before anything else where restarts were inserted. -/
def reopening (port : Port σ) (op : Operation) (v w : World σ Audience) : Trace :=
  if op.ticks v.courier ∧ port.isOpen v.port = true ∧ port.isOpen w.port = false then
    [.port .connect]
  else []

/-- The ports of worlds that are alike are open or closed alike, or the second alone is closed. -/
theorem Alike.ports
    {even : Bool}
    {v w : World σ Audience}
    (hvw : Alike port view even v w) :
    port.isOpen v.port = port.isOpen w.port
      ∨ port.isOpen v.port = true ∧ port.isOpen w.port = false := by
  cases hw : port.isOpen w.port with
  | true =>
      exact Or.inl (hvw.opens hw)
  | false =>
      cases hv : port.isOpen v.port with
      | true =>
          exact Or.inr ⟨rfl, rfl⟩
      | false =>
          exact Or.inl rfl

/-- Opening the second port makes worlds even whose first port is open. -/
theorem Alike.opened
    {even : Bool}
    (hport : port.Reopens view)
    {v w : World σ Audience}
    (hvw : Alike port view even v w)
    (hopen : port.isOpen v.port = true) :
    Alike port view true v (opened port w) := by
  have hopened : port.isOpen v.port = port.isOpen (World.opened port w).port :=
    hopen.trans (hport.opened w.port).symm
  exact ⟨hvw.courier, hvw.audience, hvw.view_eq.trans (hport.connect_view w.port).symm,
    fun _ => hopened, fun _ => hopen, hvw.plans⟩

/-- Worlds that are alike report the same of every operation of a lock-step run, but that a tick
opens the port first that is closed in one of them only. -/
theorem alike_step
    (hport : port.Reopens view)
    {op : Operation}
    (hop : op.isLockStep = true)
    {v w : World σ Audience}
    (hvw : Alike port view false v w) :
    (step port.recorded op w).result = (step port.recorded op v).result
      ∧ (step port.recorded op w).trace =
        reopening port op v w ++ (step port.recorded op v).trace
      ∧ Alike port view false (step port.recorded op v).state (step port.recorded op w).state := by
  have huneven {v w : World σ Audience} (h : Alike port view true v w) :
      Alike port view false v w :=
    ⟨h.courier, h.audience, h.view_eq, Bool.noConfusion, h.opens, h.plans⟩
  unfold reopening
  cases hticks : op.ticks v.courier with
  | false =>
      obtain ⟨hresult, htrace, hstate⟩ := alike_step_of_idle hport hop hvw hticks
      rw [if_neg (by simp)]
      exact ⟨hresult.symm, htrace.symm, hstate⟩
  | true =>
      obtain rfl := Operation.eq_pass_of_ticks hop hticks
      rcases hvw.ports with hsame | ⟨hopen, hclosed⟩
      · obtain ⟨hresult, htrace, hstate⟩ := even_step hport .pass
          ⟨hvw.courier, hvw.audience, hvw.view_eq, fun _ => hsame, hvw.opens, hvw.plans⟩
        rw [if_neg (by rw [hsame]; simp)]
        exact ⟨hresult.symm, htrace.symm, huneven hstate⟩
      · obtain ⟨hresult, htrace, hstate⟩ := even_step hport .pass (hvw.opened hport hopen)
        rw [if_pos ⟨rfl, hopen, hclosed⟩,
          step_pass_of_closed hport (hvw.courier ▸ hticks) hclosed]
        exact ⟨hresult.symm, congrArg (_ :: ·) htrace.symm, huneven hstate⟩

/-! ## Restarts -/

/-- A world whose port is closed. -/
def shut (port : Port σ) (w : World σ Audience) : World σ Audience :=
  { w with port := (port.disconnect w.port).state }

/-- A loop is running that nobody has asked to stop. -/
structure Runs (w : World σ Audience) : Prop where
  parked : w.courier.control.thread = .parked
  unasked : w.courier.control.stopFlag = false

/-- A restart closes the port of a running loop and leaves all else as it was. -/
theorem restart_shuts
    (hport : port.Dependable)
    {w : World σ Audience}
    (hw : Orderly port w)
    (hruns : Runs w) :
    ∃ text,
      let s := step port.recorded (.stop false) w
      let r := step port.recorded .start s.state
      s.trace = [.log Level.debug "Stopping courier thread...", .port .disconnect,
          .log Level.info "Courier stopped", .log Level.debug "Courier thread stopped"]
        ∧ r.trace = [.log Level.info text]
        ∧ r.state = shut port w := by
  obtain ⟨text, htext⟩ := hw.whole.shown
  have hphase : w.courier.control.phase = .running := by
    refine (hw.control.begun (by rw [hruns.parked]; rfl)).resolve_right fun hstopping => ?_
    have hasked := hw.control.asked hstopping
    rw [hruns.unasked] at hasked
    cases hasked
  have hstop := step_stop_of_parked hport hruns.parked
  have hstart := step_start_of_idle port.recorded (w := ended port w) rfl htext
  have hsame : { ended port w with courier := { (ended port w).courier with control :=
      { (ended port w).courier.control with
        stopFlag := false
        phase := .running
        thread := .parked } } } = shut port w := by
    obtain ⟨hparked, hunasked⟩ := hruns
    obtain ⟨⟨policy, codec, ⟨paused, stopFlag, mailbox, phase, thread⟩, listeners, record⟩,
      line, audience⟩ := w
    cases hparked
    cases hunasked
    cases hphase
    rfl
  rw [hsame] at hstart
  have hagain : step port.recorded .start (step port.recorded (.stop false) w).state = _ :=
    (congrArg (fun s => step port.recorded .start (Report.state s)) hstop).trans hstart
  exact ⟨_, congrArg Report.trace hstop, congrArg Report.trace hagain, congrArg Report.state hagain⟩

/-- Order is shared by worlds that are alike. -/
theorem Orderly.of_alike
    {v w : World σ Audience}
    {even : Bool}
    (hv : Orderly port v)
    (hvw : Alike port view even v w) :
    Orderly port w := by
  refine ⟨hvw.courier ▸ hv.control, hvw.courier ▸ hv.idle, fun hended => ?_,
    hvw.courier ▸ hv.asked, hvw.courier ▸ hv.whole, hvw.audience ▸ hv.plans⟩
  have hclosed := hv.closed (hvw.courier ▸ hended)
  cases hopen : port.isOpen w.port with
  | false =>
      rfl
  | true =>
      rw [hvw.opens hopen] at hclosed
      cases hclosed

/-- One row of operations from a world is another one with restarts inserted where its loop is
running and nobody has asked it to stop. -/
inductive Restarts (port : Port σ) :
    World σ Audience → List Operation → List Operation → Prop
  | done
      (w : World σ Audience) :
      Restarts port w [] []
  | step
      {w : World σ Audience}
      {op : Operation}
      {rest rest' : List Operation}
      (hrest : Restarts port (World.step port op w).state rest rest') :
      Restarts port w (op :: rest) (op :: rest')
  | restart
      {w : World σ Audience}
      {rest rest' : List Operation}
      (hruns : Runs w)
      (hrest : Restarts port w rest rest') :
      Restarts port w rest (.stop false :: .start :: rest')

/-- A beginning of the one row is a beginning of the other one but for the restarts in it. -/
theorem Restarts.beginning
    {w : World σ Audience}
    {ops ops' : List Operation}
    (hrestarts : Restarts port w ops ops') :
    ∀ {first : List Operation}, first <+: ops →
      ∃ first', first' <+: ops' ∧ Restarts port w first first' := by
  induction hrestarts with
  | done w =>
      intro first hfirst
      rw [List.prefix_nil.mp hfirst]
      exact ⟨[], List.nil_prefix, .done w⟩
  | @step w op rest rest' hrest ih =>
      intro first hfirst
      cases first with
      | nil =>
          exact ⟨[], List.nil_prefix, .done w⟩
      | cons o first =>
          obtain ⟨rfl, hlater⟩ := List.cons_prefix_cons.mp hfirst
          obtain ⟨first', hfirst', hbegin⟩ := ih hlater
          exact ⟨o :: first', List.cons_prefix_cons.mpr ⟨rfl, hfirst'⟩, .step hbegin⟩
  | restart hruns hrest ih =>
      intro first hfirst
      obtain ⟨first', hfirst', hbegin⟩ := ih hfirst
      refine ⟨.stop false :: .start :: first', ?_, .restart hruns hbegin⟩
      exact List.cons_prefix_cons.mpr ⟨rfl, List.cons_prefix_cons.mpr ⟨rfl, hfirst'⟩⟩

end World

/-- An entry is neither a log record nor an opening or closing of the port. -/
def Entry.isSubstance : Entry → Bool
  | .log _ _ | .port .connect | .port .disconnect => false
  | _ => true

/-- What a trace holds besides log records, openings and closings. -/
def Trace.substance (t : Trace) : Trace := t.filter Entry.isSubstance

@[simp] theorem Trace.substance_append
    (t u : Trace) :
    (t ++ u).substance = t.substance ++ u.substance :=
  List.filter_append ..

namespace World

variable {σ ρ : Type} {port : Port σ} {view : σ → ρ}

theorem substance_reopening
    (op : Operation)
    (v w : World σ Audience) :
    (reopening port op v w).substance = [] := by
  unfold reopening
  split <;> rfl

/-- Inserted restarts keep worlds alike, and leave nothing but log records and closings, and
openings by ticks. -/
theorem alike_reached
    (hport : port.Reopens view)
    {u : World σ Audience}
    {ops ops' : List Operation}
    (hrestarts : Restarts port.recorded u ops ops')
    (hops : ∀ op ∈ ops, op.isLockStep = true)
    {w : World σ Audience}
    (hu : Orderly port u)
    (huw : Alike port view false u w) :
    Alike port view false (reached port.recorded ops u) (reached port.recorded ops' w)
      ∧ (chronicle port.recorded ops' w).substance =
        (chronicle port.recorded ops u).substance := by
  -- The world of the row with restarts is only alike: its port stays closed up to the next tick.
  induction hrestarts generalizing w with
  | done u =>
      exact ⟨huw, rfl⟩
  | @step u op rest rest' hrest ih =>
      have hop := hops op List.mem_cons_self
      obtain ⟨-, htrace, hstate⟩ := alike_step hport hop huw
      obtain ⟨hlast, hsubstance⟩ := ih (fun o ho => hops o (List.mem_cons_of_mem op ho))
        (ordered_step hport.dependable hop u hu).2 hstate
      refine ⟨hlast, ?_⟩
      rw [chronicle_cons, chronicle_cons, Trace.substance_append, Trace.substance_append,
        hsubstance, htrace, Trace.substance_append, substance_reopening, List.nil_append]
  | @restart u rest rest' hruns hrest ih =>
      have hw := hu.of_alike huw
      obtain ⟨text, hstop, hstart, hstate⟩ := restart_shuts hport.dependable hw
        ⟨huw.courier ▸ hruns.parked, huw.courier ▸ hruns.unasked⟩
      have hshut : Alike port view false u (shut port w) := by
        refine ⟨huw.courier, huw.audience, huw.view_eq.trans (hport.disconnect_view w.port).symm,
          Bool.noConfusion, fun hopen => ?_, huw.plans⟩
        have hclosed : port.isOpen (shut port w).port = false := hport.closed w.port
        rw [hclosed] at hopen
        cases hopen
      obtain ⟨hlast, hsubstance⟩ := ih hops hu hshut
      rw [← hstate] at hlast hsubstance
      refine ⟨hlast, ?_⟩
      rw [chronicle_cons, chronicle_cons, Trace.substance_append, Trace.substance_append, hstop,
        hstart, hsubstance]
      rfl

/-- Listeners that only observe halt only in faults. -/
theorem contained_of_observes
    {a : Audience}
    (ha : a.Plans Reaction.observes) :
    a.Plans Reaction.isContained :=
  ha.mono fun r hr => by
    cases r with
    | halts h =>
        exact hr
    | performs op =>
        cases hr

/--
Let one lock-step row of operations of a courier that was made of integers be another one with
restarts inserted where the loop is running and nobody has asked it to stop, over a port that can
always be opened and closed and among listeners that only observe or fail.  After both rows the
couriers are the same, and so are the listeners' plans and all that is seen of the ports; they
leave the same traces but for log records, openings and closings.  Whatever is asked for next
returns the same and leaves the same trace, but that a tick first opens the port that a restart
has closed.  A restart that is asked for next itself leaves log records and one closing, and
nothing else changes.  All this holds along the rows too, as every beginning of the one goes with
a beginning of the other.
-/
theorem restarts_transparent
    (hport : port.Reopens view)
    {longest : Option Binary64}
    {codec : Codec}
    {ms limit : Int}
    {timeout : Value}
    {unsigned : Bool}
    {ops ops' : List Operation}
    {w : World σ Audience}
    (hmade : Courier.create longest codec (.int ms) (.int limit) timeout unsigned = .ok w.courier)
    (hplans : w.audience.Plans Reaction.observes)
    (hops : ∀ op ∈ ops, op.isLockStep = true)
    (hrestarts : Restarts port.recorded w ops ops') :
    let v := reached port.recorded ops w
    let v' := reached port.recorded ops' w
    v'.courier = v.courier
      ∧ v'.audience = v.audience
      ∧ view v'.port = view v.port
      ∧ (port.isOpen v'.port = true → port.isOpen v.port = true)
      ∧ (chronicle port.recorded ops' w).substance = (chronicle port.recorded ops w).substance
      ∧ (∀ op, op.isLockStep = true →
        (step port.recorded op v').result = (step port.recorded op v).result
          ∧ (step port.recorded op v').trace =
            reopening port op v v' ++ (step port.recorded op v).trace)
      ∧ (Runs v → ∃ text,
        let s := step port.recorded (.stop false) v'
        let r := step port.recorded .start s.state
        s.trace = [.log Level.debug "Stopping courier thread...", .port .disconnect,
            .log Level.info "Courier stopped", .log Level.debug "Courier thread stopped"]
          ∧ r.trace = [.log Level.info text]
          ∧ r.state = shut port v')
      ∧ ∀ first, first <+: ops → ∃ first', first' <+: ops'
        ∧ Restarts port.recorded w first first' := by
  intro v v'
  obtain ⟨hw, -⟩ : Orderly port w ∧ _ := orderly_create hmade (contained_of_observes hplans)
  have hself : Alike port view false w w := ⟨rfl, rfl, rfl, fun _ => rfl, id, hplans⟩
  obtain ⟨halike, hsubstance⟩ := alike_reached hport hrestarts hops hw hself
  have hv : Orderly port v := (ordered_chronicle hport.dependable hops hw).2
  refine ⟨halike.courier.symm, halike.audience.symm, halike.view_eq.symm, halike.opens, hsubstance,
    fun op hop => ?_, fun hruns => ?_, fun _ => hrestarts.beginning⟩
  · obtain ⟨hresult, htrace, -⟩ := alike_step hport hop halike
    exact ⟨hresult, htrace⟩
  · exact restart_shuts hport.dependable (hv.of_alike halike)
      ⟨halike.courier ▸ hruns.parked, halike.courier ▸ hruns.unasked⟩

end World

/-! ## Ports that always open and close -/

/-- A party that does not notice openings and closings. -/
def Responder.unhindered
    {σ : Type}
    (respond : Responder PortCall σ) :
    Responder PortCall σ
  | .connect, s | .disconnect, s => (.nothing, s)
  | c, s => respond c s

theorem AnsweredLine.confined_ask
    {σ : Type}
    {peer : Peer σ}
    {c : PortCall}
    (hfaults : ∀ s h, (peer c s).1 = .halts h → h.isFault = true) :
    Run.Confined (fun _ => True) Halt.Contained (ask peer c) := by
  refine fun s _ => ⟨trivial, fun h hr => hfaults s.party h ?_⟩
  change (peer c s.party).1.ending = .error h at hr
  cases ha : (peer c s.party).1 with
  | halts k =>
      rw [ha] at hr
      cases hr
      rfl
  | nothing =>
      rw [ha] at hr
      cases hr
  | bytes bs =>
      rw [ha] at hr
      cases hr

/-- Whatever halts only in faults is consistent where nothing but the party is seen, since an
answered line is no more than its party and whether it is open. -/
theorem answeredPort_consistent
    {σ α : Type}
    (name : Value)
    (peer : Peer σ)
    {x : Run (AnsweredLine σ) α}
    (hx : Run.Confined (fun _ => True) Halt.Contained x) :
    (answeredPort name peer).Consistent AnsweredLine.party x := by
  have hsame {s t : AnsweredLine σ} (hparty : s.party = t.party) (hopen : s.isOpen = t.isOpen) :
      s = t := by
    obtain ⟨flag, party⟩ := s
    cases hparty
    cases hopen
    rfl
  exact {
    result_eq := fun hparty hopen => by rw [hsame hparty hopen]
    view_eq := fun hparty hopen => by rw [hsame hparty hopen]
    isOpen_eq := fun hparty hopen => by rw [hsame hparty hopen]
    contained := fun s => (hx s trivial).2 }

/-- The port of such a party can always be opened and closed, and only the party is seen of it. -/
theorem answeredPort_reopens
    {σ : Type}
    (name : Value)
    {respond : Responder PortCall σ}
    (hfaults : ∀ c s h, (respond c s).1 = .halts h → h.isFault = true) :
    (answeredPort name (.steady respond.unhindered)).Reopens AnsweredLine.party where
  connects _ := rfl
  opened _ := rfl
  connect_view _ := rfl
  closes _ := rfl
  closed _ := rfl
  disconnect_view _ := rfl
  discard := answeredPort_consistent name _
    ((AnsweredLine.confined_ask (hfaults .discard)).bind fun _ => .give ())
  send bs := answeredPort_consistent name _
    ((AnsweredLine.confined_ask (hfaults (.send bs))).bind fun _ => .give ())
  receive n timeout := answeredPort_consistent name _
    (AnsweredLine.confined_ask (hfaults (.receive n timeout)))

namespace World

/-- A loop whose first tick fails is restarted after it and again while it is paused. -/
theorem restarts_transparent_paused :
    let port := answeredPort (.text "dev0") (.steady Responder.ofOutcomes.unhindered)
    let who : Listener := ⟨"rec", .null⟩
    let w := { unused [.ok [], .error (.noReply "late")] [] with
      audience := [⟨who, [[.halts (.fault .wrongType)]]⟩] }
    let ops : List Operation :=
      [.subscribe who, .start, .pass, .pause true, .pass, .pause false, .pass]
    let ops' : List Operation := [.subscribe who, .start, .pass, .stop false, .start, .pause true,
      .pass, .stop false, .start, .pause false, .pass]
    let v := reached port.recorded ops w
    let v' := reached port.recorded ops' w
    v.courier.record.failures = 2
      ∧ (chronicle port.recorded ops w).commands.length = 2
      ∧ Restarts port.recorded w ops ops'
      ∧ v'.courier = v.courier
      ∧ (chronicle port.recorded ops' w).substance = (chronicle port.recorded ops w).substance := by
  intro port who w ops ops' v v'
  have hport : port.Reopens AnsweredLine.party :=
    answeredPort_reopens _ Responder.ofOutcomes_faults
  have hmade : Courier.create _ _ _ _ _ _ = .ok w.courier := create_unused w.port.party
  have hplans : w.audience.Plans Reaction.observes := by decide
  have hops : ∀ op ∈ ops, op.isLockStep = true := by decide
  have hfirst : Runs (reached port.recorded [.subscribe who, .start, .pass] w) :=
    ⟨by decide +kernel, by decide +kernel⟩
  have hpaused : Runs
      (reached port.recorded [.subscribe who, .start, .pass, .pause true, .pass] w) :=
    ⟨by decide +kernel, by decide +kernel⟩
  have hfailures : v.courier.record.failures = 2 := by decide +kernel
  have hcommands : (chronicle port.recorded ops w).commands.length = 2 := by decide +kernel
  clear_value w
  have hrestarts : Restarts port.recorded w ops ops' :=
    .step (.step (.step (.restart hfirst (.step (.step
      (.restart hpaused (.step (.step (.done _)))))))))
  obtain ⟨hcourier, -, -, -, hsubstance, -, -, -⟩ :=
    restarts_transparent hport hmade hplans hops hrestarts
  exact ⟨hfailures, hcommands, hrestarts, hcourier, hsubstance⟩

/-- A stop and a start where the loop has been stopped already bring it back, so that a stop which
would have found nothing to stop now takes hold of it. -/
theorem restart_of_stopped_shows :
    let port := answeredPort (.text "dev0") (.steady Responder.ofOutcomes.unhindered)
    let reply : List UInt8 := [0x02, 0x0B, 0x20, 0x01, 0x10, 0x00, 0x0D, 0x21, 0x00, 0x03, 0x16]
    let w := unused [.ok [], .ok reply, .ok [], .ok reply] []
    let first : List Operation := [.start, .pass, .stop false]
    let rest : List Operation := [.stop true, .start, .pass]
    port.Reopens AnsweredLine.party
      ∧ Courier.create (some Policy.usualLongestWait) Codec.usual (.int 0) (.int 5) .null false =
        .ok w.courier
      ∧ w.audience.Plans Reaction.observes
      ∧ (∀ op ∈ first ++ rest, op.isLockStep = true)
      ∧ (chronicle port.recorded (first ++ rest) w).commands.length = 2
      ∧ (chronicle port.recorded (first ++ [.stop false, .start] ++ rest) w).commands.length =
        1 := by
  intro port reply w first rest
  refine ⟨answeredPort_reopens _ Responder.ofOutcomes_faults, create_unused _, ?_, by decide,
    by decide +kernel, by decide +kernel⟩
  decide

end World

end AcceptorHost
