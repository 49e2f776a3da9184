import AcceptorHost.Proofs.Alternation
import AcceptorHost.Proofs.Simulations
import AcceptorHost.Proofs.Translation

/-!
# Ports as their own peers

An answered port leaves it to its peer how calls are answered and what becomes of the open
flag, so every port can be answered by itself: its peer answers a call as the port ends it,
goes through the states of the port, and has the line as open as the port is.  A row of
operations over a port whose calls are recorded is the same row over the answered port of
that peer (`steps_overPeer`, `chronicle_overPeer`, `reached_overPeer`).  So whatever holds
over every answered port holds over a serial port with its library, however it opens, closes
and loses its open flag.
-/

namespace AcceptorHost

/-- The answer of a call that ends so. -/
def Answer.ofEnding : Except Halt (Option (List UInt8)) → Answer
  | .ok none => .nothing
  | .ok (some bs) => .bytes bs
  | .error h => .halts h

@[simp] theorem Answer.ending_ofEnding
    (r : Except Halt (Option (List UInt8))) :
    (ofEnding r).ending = r := by
  rcases r with h | _ | bs <;> rfl

@[simp] theorem Answer.completion_ofEnding_map
    (r : Except Halt Unit) :
    (ofEnding (r.map fun _ => none)).completion = r := by
  rcases r with h | u <;> rfl

variable {σ τ : Type}

/-- The peer that does what a port does. -/
def Port.peer (p : Port σ) : Peer σ where
  respond c s := (.ofEnding (p.call c s).result, (p.call c s).state)
  opens c s _ := p.isOpen (p.call c s).state

/-- The line of an answered port that is as open as a port in some state. -/
def Port.line (p : Port σ) (s : σ) : AnsweredLine σ := ⟨p.isOpen s, s⟩

theorem Port.after_line
    (p : Port σ)
    (c : PortCall)
    (s : σ) :
    (p.line s).after p.peer c = p.line (p.call c s).state := rfl

/-- A call that gives nothing is answered as the port does it. -/
theorem Port.call_line
    (p : Port σ)
    {c : PortCall}
    {x : Run σ Unit}
    (hx : p.call c = do
      x
      Run.give none)
    (s : σ) :
    AnsweredLine.call p.peer c (p.line s) = ⟨[.port c], (x s).result, p.line (x s).state⟩ := by
  have hcall : p.call c s = ⟨(x s).trace, (x s).result.map fun _ => none, (x s).state⟩ := by
    rw [hx, Run.bind_none]
  have hanswer : (p.peer c s).1 = .ofEnding ((x s).result.map fun _ => none) := by
    change Answer.ofEnding (p.call c s).result = _
    rw [hcall]
  rw [AnsweredLine.call_eq, p.after_line, hcall]
  change Report.mk _ (p.peer c s).1.completion _ = _
  rw [hanswer, Answer.completion_ofEnding_map]

namespace World

/-- A world over a port as one over the answered port of its peer. -/
def overPeer (p : Port σ) (w : World σ τ) : World (AnsweredLine σ) τ :=
  ⟨w.courier, p.line w.port, w.audience⟩

/-- A run over a recorded port and the run over the answered port of its peer. -/
abbrev standIn (p : Port σ) : Kinship (World σ τ) (World (AnsweredLine σ) τ) :=
  Kinship.abreast (fun w v => w.overPeer p = v) fun _ => true

section Steps

variable (p : Port σ)

theorem standIn_look
    {α : Type}
    (f : Courier → α) :
    (standIn p).kin (ask f : Run (World σ τ) α) (ask f) :=
  Kinship.abreast_look fun _ _ hwv => by rw [← hwv]; rfl

theorem standIn_change
    (f : Courier → Courier) :
    (standIn p).kin (change f : Run (World σ τ) Unit) (change f) :=
  Kinship.abreast_change fun _ _ hwv => by rw [← hwv]; rfl

/-- A call that gives nothing goes as its answer does. -/
theorem standIn_call
    {c : PortCall}
    {x : Run σ Unit}
    (hx : p.call c = do
      x
      Run.give none) :
    (standIn p).kin (onPort (x.recorded c) : Run (World σ τ) Unit)
      (onPort (AnsweredLine.call p.peer c)) := by
  rintro w v rfl
  have hcall := p.call_line hx w.port
  change _ = (AnsweredLine.call p.peer c (p.line w.port)).result
    ∧ _ = (AnsweredLine.call p.peer c (p.line w.port)).trace.filter _
    ∧ _ = World.mk _ (AnsweredLine.call p.peer c (p.line w.port)).state _
  rw [hcall]
  exact ⟨rfl, rfl, rfl⟩

theorem standIn_receive
    (n : Int)
    (timeout : Value) :
    (standIn p).kin (onPort (p.recorded.receive n timeout) : Run (World σ τ) _)
      (onPort ((answeredPort p.name p.peer).receive n timeout)) := by
  rintro w v rfl
  exact ⟨(Answer.ending_ofEnding _).symm, rfl, rfl⟩

/-- Operations go as over the answered port, if the deliveries to listeners do. -/
theorem standIn_whole
    {deliver : Deliver σ τ}
    {deliver' : Deliver (AnsweredLine σ) τ}
    (hdeliver : ∀ l e, (standIn p).kin (deliver l e) (deliver' l e)) :
    (standIn p).Whole p.recorded deliver (answeredPort p.name p.peer) deliver' where
  ticks :=
    { log := fun _ _ => Kinship.abreast_emit _
      slept := fun _ => Kinship.abreast_emit _
      ask := fun f _ => standIn_look p f
      turned := standIn_change p _
      record := fun _ => standIn_change p _
      connect := standIn_call p rfl
      disconnect := standIn_call p rfl
      discard := standIn_call p rfl
      send := fun _ => standIn_call p rfl
      receive := standIn_receive p
      fire := abreast_fire (fun _ _ hwv => by rw [← hwv]; rfl) hdeliver }
  loops :=
    { name_eq := rfl
      log := fun _ _ => Kinship.abreast_emit _
      died := fun _ => Kinship.abreast_emit _
      waited := fun _ => Kinship.abreast_emit _
      look := standIn_look p
      control := fun _ _ => standIn_change p _
      disconnect := standIn_call p rfl }
  opening := by
    have hopen : (standIn p).kin (Run.look fun w : World σ τ => p.recorded.isOpen w.port)
        (Run.look fun v => (answeredPort p.name p.peer).isOpen v.port) :=
      Kinship.abreast_look fun _ _ hwv => by rw [← hwv]; rfl
    exact (standIn p).bind hopen fun _ => Kinship.ite ((standIn p).give ()) (standIn_call p rfl)
  mailbox _ := standIn_change p _
  listeners _ := standIn_change p _

theorem standIn_hear
    {act : Operation → Run (World σ Audience) Value}
    {act' : Operation → Run (World (AnsweredLine σ) Audience) Value}
    (hact : ∀ op, (standIn p).kin (act op) (act' op))
    (l : Listener)
    (e : Event) :
    (standIn p).kin (hear act l e) (hear act' l e) := by
  have hplans (w : World σ Audience) (v : World (AnsweredLine σ) Audience)
      (_ : w.overPeer p = v) : v.audience.Plans fun _ => true := fun _ _ _ _ _ _ => rfl
  refine abreast_hear ?_ hplans ?_ (fun op _ => hact op) l e
  · rintro w v rfl
    rfl
  · rintro w v who rfl
    rfl

theorem standIn_performNested :
    ∀ (depth : Nat) (op : Operation),
      (standIn p).kin (performNested p.recorded depth op)
        (performNested (answeredPort p.name p.peer) depth op)
  | 0, op => (standIn_whole p fun _ _ _ _ h => ⟨rfl, rfl, h⟩).perform op
  | depth + 1, op =>
      (standIn_whole p (standIn_hear p (standIn_performNested depth))).perform op

end Steps

/-! ## Rows of operations -/

/-- What an operation reports, told of the answered port. -/
def reportAnswered (p : Port σ) (r : Report (World σ Audience) Value) :
    Report (World (AnsweredLine σ) Audience) Value :=
  ⟨r.trace, r.result, r.state.overPeer p⟩

theorem step_overPeer
    (p : Port σ)
    (op : Operation)
    (w : World σ Audience) :
    step (answeredPort p.name p.peer) op (w.overPeer p) =
      reportAnswered p (step p.recorded op w) := by
  obtain ⟨hresult, htrace, hstate⟩ :=
    Kinship.abreast_exact (standIn_performNested p (w.audience.depth + 1) op) rfl
  exact (congr (congr (congrArg Report.mk htrace) hresult) hstate).symm

/-- Over every row of operations an answered port does what the port does that answers it. -/
theorem steps_overPeer
    (p : Port σ)
    (ops : List Operation)
    (w : World σ Audience) :
    steps (answeredPort p.name p.peer) ops (w.overPeer p) =
      (steps p.recorded ops w).map (reportAnswered p) := by
  induction ops generalizing w with
  | nil =>
      rfl
  | cons op rest ih =>
      have hrest := ih (step p.recorded op w).state
      unfold steps
      rw [step_overPeer]
      exact congrArg (_ :: ·) hrest

theorem chronicle_overPeer
    (p : Port σ)
    (ops : List Operation)
    (w : World σ Audience) :
    chronicle (answeredPort p.name p.peer) ops (w.overPeer p) = chronicle p.recorded ops w := by
  unfold chronicle
  rw [steps_overPeer, List.flatMap_map]
  rfl

theorem reached_overPeer
    (p : Port σ)
    (ops : List Operation)
    (w : World σ Audience) :
    reached (answeredPort p.name p.peer) ops (w.overPeer p) =
      (reached p.recorded ops w).overPeer p := by
  induction ops generalizing w with
  | nil =>
      rfl
  | cons op rest ih =>
      unfold reached
      rw [step_overPeer]
      exact ih (step p.recorded op w).state

end World

end AcceptorHost
