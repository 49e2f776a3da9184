import AcceptorHost.Link.Script
import AcceptorHost.Proofs.TickRows

/-!
# Half-duplex ticks

The work of a tick is a word of a small automaton (`Stage`): it opens a port that is not
open, sends one command, reads one reply and drops one that is no frame, or, for a reset,
closes the port, rests and opens it again; after a call that finds the link down it closes
the port.  A loop that ends in the middle of a tick adds its own closing of the port and
nothing else.  Over rows of ticks no command is sent while a reply is awaited, and nothing
is sent, read or dropped on a closed port unless a loop ends in the middle of a tick.
-/

namespace AcceptorHost

/-- How far a tick has come with its work. -/
inductive Stage where
  /-- The port is to be opened. -/
  | opening
  /-- The command is to be sent. -/
  | commanding
  /-- The reply is to be read. -/
  | awaiting
  /-- What waits behind a reply that is no frame is to be dropped. -/
  | dropping
  /-- The port is to be closed for a reset. -/
  | unplugging
  /-- The acceptor is to be left alone after a reset. -/
  | resting
  /-- The port is to be opened after a reset. -/
  | replugging
  /-- The port is to be closed, the link being down. -/
  | severing
  /-- Nothing more is to be done. -/
  | finished
  deriving DecidableEq, Repr

namespace Act

/-- An act sends, reads or drops bytes. -/
def needsOpen : Act → Bool
  | .called (.send _) _ | .called (.receive _ _) _ | .called .discard _ => true
  | _ => false

/-- Whether the port is open after an act, if the act is not done on a closed port that needs
an open one. -/
def plug? (isOpen : Bool) (x : Act) : Option Bool :=
  if x.needsOpen && !isOpen then none else some (opens isOpen x)

/-- An act sends bytes. -/
def sends : Act → Bool
  | .called (.send _) _ => true
  | _ => false

/-- Whether a reply is awaited after an act; a port that is to be closed gives none. -/
def awaits (awaited : Bool) : Act → Bool
  | .called (.send _) a => a.failure?.isNone
  | .called (.receive _ _) _ | .called .disconnect _ => false
  | _ => awaited

/-- Whether a reply is awaited after an act, if the act does not send while one is. -/
def turn? (awaited : Bool) (x : Act) : Option Bool :=
  if awaited && x.sends then none else some (awaits awaited x)

theorem turn?_of_closes
    {x : Act}
    (hx : x.closes = true)
    (awaited : Bool) :
    turn? awaited x = some false := by
  unfold closes at hx
  split at hx
  · cases awaited <;> rfl
  · cases hx

/-- Closings of the port may be done whether it is open or not. -/
theorem plug?_of_closes
    {acts : List Act}
    (h : ∀ x ∈ acts, x.closes = true)
    (isOpen : Bool) :
    acts.foldlM plug? isOpen = some (acts.foldl opens isOpen) := by
  induction acts generalizing isOpen with
  | nil =>
      rfl
  | cons x rest ih =>
      have hplug : plug? isOpen x = some (opens isOpen x) := by
        have hx := h x List.mem_cons_self
        unfold closes at hx
        split at hx
        · rfl
        · cases hx
      rw [List.foldlM_cons, hplug]
      exact ih (fun y hy => h y (List.mem_cons_of_mem x hy)) _

end Act

namespace Stage

/-- The stage after a call that does not return. -/
def fallen : Halt → Stage
  | .fault (.linkDown _) => .severing
  | _ => .finished

/-- The stage after a call: the given one if the call returns. -/
def past (a : Answer) (next : Stage) : Stage :=
  match a.failure? with
  | some h => fallen h
  | none => next

/-- The stage after an act of a tick that sends a command for a request, if the act has its
place at that stage. -/
def next? (request : Option Request) (command : List UInt8) : Stage → Act → Option Stage
  | .opening, .called .connect a => some (past a .commanding)
  | .commanding, .called (.send bs) a =>
      if bs = command then some (past a (if request = some .reset then .unplugging else .awaiting))
      else none
  | .awaiting, .called (.receive n _) (.bytes x) =>
      if n = Frame.replySize then some (if Frame.accepts x then .finished else .dropping) else none
  | .awaiting, .called (.receive n _) a =>
      if n = Frame.replySize then some (past a .finished) else none
  | .dropping, .called .discard a => some (past a .finished)
  | .unplugging, .called .disconnect a => some (past a .resting)
  | .resting, .slept x => if x = World.resetRest then some .replugging else none
  | .replugging, .called .connect a => some (past a .finished)
  | .severing, .called .disconnect _ => some .finished
  | _, _ => none

/-- The stage after acts, if each has its place. -/
def run (request : Option Request) (command : List UInt8) : Stage → List Act → Option Stage :=
  List.foldlM (next? request command)

/-- The stage in which a tick begins. -/
def start (isOpen : Bool) : Stage := if isOpen then .commanding else .opening

/-- The stage in which an exchange ends. -/
def ending {α : Type} : Except Halt α → Stage
  | .ok _ => .finished
  | .error h => fallen h

@[simp] theorem ending_ok
    {α : Type}
    (a : α) :
    ending (.ok a) = .finished := rfl

@[simp] theorem ending_error
    {α : Type}
    (h : Halt) :
    ending (.error h : Except Halt α) = fallen h := rfl

variable {request : Option Request} {command : List UInt8}

variable (request command) in
theorem run_nil
    (st : Stage) :
    run request command st [] = some st := rfl

theorem run_append
    {st st' st'' : Stage}
    {a b : List Act}
    (h : run request command st a = some st')
    (k : run request command st' b = some st'') :
    run request command st (a ++ b) = some st'' := by
  unfold run at *
  rw [List.foldlM_append, h]
  exact k

theorem run_cons
    {st st' st'' : Stage}
    {x : Act}
    {rest : List Act}
    (h : next? request command st x = some st')
    (k : run request command st' rest = some st'') :
    run request command st (x :: rest) = some st'' := by
  unfold run at *
  rw [List.foldlM_cons, h]
  exact k

theorem run_last
    {st st' : Stage}
    {x : Act}
    (h : next? request command st x = some st') :
    run request command st [x] = some st' :=
  run_cons h (run_nil request command st')

theorem past_of_success
    {a : Answer}
    (ha : a.failure? = none)
    (st : Stage) :
    past a st = st := by
  simp [past, ha]

/-! ## Stages and the port -/

/-- A stage is reached with the port open only. -/
def needsOpen : Stage → Bool
  | .commanding | .awaiting | .dropping | .unplugging => true
  | _ => false

/-- At a stage a reply may be awaited. -/
def awaits : Stage → Bool
  | .awaiting | .unplugging => true
  | _ => false

theorem fallen_eq
    (h : Halt) :
    fallen h = .severing ∨ fallen h = .finished := by
  unfold fallen
  split
  · exact Or.inl rfl
  · exact Or.inr rfl

@[simp] theorem needsOpen_past
    (a : Answer)
    (st : Stage) :
    (past a st).needsOpen = (a.failure?.isNone && st.needsOpen) := by
  unfold past
  cases a.failure? with
  | none =>
      rfl
  | some h =>
      rcases fallen_eq h with hfallen | hfallen <;> simp [hfallen, needsOpen]

@[simp] theorem awaits_past
    (a : Answer)
    (st : Stage) :
    (past a st).awaits = (a.failure?.isNone && st.awaits) := by
  unfold past
  cases a.failure? with
  | none =>
      rfl
  | some h =>
      rcases fallen_eq h with hfallen | hfallen <;> simp [hfallen, awaits]

/-- An act that has its place at a stage has an open port if it needs one. -/
theorem plug?_of_next?
    {st st' : Stage}
    {x : Act}
    {isOpen : Bool}
    (h : next? request command st x = some st')
    (hopen : st.needsOpen = true → isOpen = true) :
    Act.plug? isOpen x = some (Act.opens isOpen x)
      ∧ (st'.needsOpen = true → Act.opens isOpen x = true) := by
  revert h
  -- a failed call leads to a stage that asks for nothing of the port
  fun_cases next? request command st x <;> intro h <;> cases h <;>
    grind [Act.plug?, Act.needsOpen, Act.opens, PortCall.opens, Answer.failure?, cases Answer,
      needsOpen, needsOpen_past]

/-- Acts that have their places from a stage on have an open port where they need one. -/
theorem plug?_of_run
    {acts : List Act}
    {st st' : Stage}
    {isOpen : Bool}
    (h : run request command st acts = some st')
    (hopen : st.needsOpen = true → isOpen = true) :
    acts.foldlM Act.plug? isOpen = some (acts.foldl Act.opens isOpen) := by
  induction acts generalizing st isOpen with
  | nil =>
      rfl
  | cons x rest ih =>
      unfold run at h
      rw [List.foldlM_cons] at h
      obtain ⟨next, hnext, hrest⟩ := Option.bind_eq_some_iff.mp h
      obtain ⟨hplug, hafter⟩ := plug?_of_next? hnext hopen
      rw [List.foldlM_cons, hplug]
      exact ih hrest hafter

/-- An act that has its place at a stage sends no command while a reply is awaited. -/
theorem turn?_of_next?
    {st st' : Stage}
    {x : Act}
    {awaited : Bool}
    (h : next? request command st x = some st')
    (hawaits : awaited = true → st.awaits = true) :
    Act.turn? awaited x = some (Act.awaits awaited x)
      ∧ (Act.awaits awaited x = true → st'.awaits = true) := by
  revert h
  fun_cases next? request command st x <;> intro h <;> cases h <;>
    grind [Act.turn?, Act.sends, Act.awaits, awaits, awaits_past]

/-- Acts that have their places from a stage on to the end of a tick, with closings of the port
between them, send no command while a reply is awaited. -/
theorem turn?_of_run
    {own acts : List Act}
    {st : Stage}
    {awaited : Bool}
    (hacts : Act.Interrupted own acts)
    (h : run request command st own = some .finished)
    (hawaits : awaited = true → st.awaits = true) :
    acts.foldlM Act.turn? awaited = some false := by
  induction hacts generalizing st awaited with
  | done =>
      cases h
      cases awaited with
      | false =>
          rfl
      | true =>
          cases hawaits rfl
  | act x hrest ih =>
      unfold run at h
      rw [List.foldlM_cons] at h
      obtain ⟨next, hnext, hlater⟩ := Option.bind_eq_some_iff.mp h
      obtain ⟨hturn, hstill⟩ := turn?_of_next? hnext hawaits
      rw [List.foldlM_cons, hturn]
      exact ih hlater hstill
  | closing x hx hrest ih =>
      rw [List.foldlM_cons, Act.turn?_of_closes hx]
      exact ih h (fun hnone => by cases hnone)

end Stage

/-! ## The work of a tick -/

namespace Vantage

variable {σ τ : Type} {V : Vantage σ τ} {d e : Desk σ} {acts : List Act}

@[simp] theorem work_called
    (c : PortCall)
    (a : Answer)
    (rest : List Act) :
    (.called c a :: rest).filter Act.isWork = .called c a :: rest.filter Act.isWork :=
  List.filter_cons_of_pos rfl

@[simp] theorem work_slept
    (x : Binary64)
    (rest : List Act) :
    (.slept x :: rest).filter Act.isWork = .slept x :: rest.filter Act.isWork :=
  List.filter_cons_of_pos rfl

@[simp] theorem work_tell
    (event : Event) :
    (V.tell event).filter Act.isWork = [] := by
  unfold tell
  split <;> rfl

@[simp] theorem work_flatMap_tell
    (es : List Event) :
    (es.flatMap V.tell).filter Act.isWork = [] := by
  induction es with
  | nil =>
      rfl
  | cons event rest ih =>
      rw [List.flatMap_cons, List.filter_append, work_tell, ih, List.append_nil]

@[simp] theorem work_alarmActs
    (d : Desk σ) :
    (V.alarmActs d).filter Act.isWork = [] := by
  unfold alarmActs
  cases d.alarm with
  | ok es =>
      exact work_flatMap_tell es
  | error f =>
      rfl

variable {request : Option Request} {command : List UInt8}

/-- The reading of a reply goes from the awaiting of it to its end. -/
theorem Collection.stages
    {result : Except Halt (List UInt8)}
    (h : V.Collection d acts result e) :
    Stage.run request command .awaiting (acts.filter Act.isWork) = some (Stage.ending result) := by
  cases h with
  | failed h ha =>
      exact Stage.run_last rfl
  | blank ha =>
      rfl
  | accepted x ha hx =>
      have hstage : Stage.next? request command .awaiting (.called d.reading (.bytes x)) =
          some .finished := by
        simp [Stage.next?, Desk.reading, hx]
      simpa using Stage.run_last hstage
  | dropped x a ha hx hb hok =>
      have hstage : Stage.next? request command .awaiting (.called d.reading (.bytes x)) =
          some .dropping := by
        simp [Stage.next?, Desk.reading, hx]
      have hdrop : Stage.next? request command .dropping (.called .discard a) = some .finished :=
        congrArg some (Stage.past_of_success hok .finished)
      simpa using Stage.run_cons hstage (Stage.run_last hdrop)
  | stuck x h ha hx hb =>
      have hstage : Stage.next? request command .awaiting (.called d.reading (.bytes x)) =
          some .dropping := by
        simp [Stage.next?, Desk.reading, hx]
      have hdrop : Stage.next? request command .dropping (.called .discard (.halts h)) =
          some (Stage.fallen h) := rfl
      simpa using Stage.run_cons hstage (Stage.run_last hdrop)

/-- A command that is to be answered goes with its reply from the sending to the end. -/
theorem Inquiry.stages
    {bytes : List UInt8}
    {result : Except Halt (List UInt8)}
    (hrequest : request ≠ some .reset)
    (h : V.Inquiry bytes d acts result e) :
    Stage.run request bytes .commanding (acts.filter Act.isWork) = some (Stage.ending result) := by
  cases h with
  | unsent h ha =>
      have hsend : Stage.next? request bytes .commanding (.called (.send bytes) (.halts h)) =
          some (Stage.fallen h) := if_pos rfl
      simpa using Stage.run_last hsend
  | sent a ha hok hread =>
      have hsend : Stage.next? request bytes .commanding (.called (.send bytes) a) =
          some .awaiting := by
        simp [Stage.next?, hrequest, Stage.past_of_success hok]
      simpa using Stage.run_cons hsend hread.stages

/-- The exchange of a request goes from the sending of its command to its end. -/
theorem Service.stages
    {result : Except Halt Unit}
    (h : V.Service d request acts result e) :
    Stage.run request (d.command request) .commanding (acts.filter Act.isWork) =
      some (Stage.ending result) := by
  cases h with
  | failed h hrequest hask =>
      exact hask.stages hrequest
  | dropped hrequest hask =>
      exact hask.stages hrequest
  | answered x hrequest hx hask =>
      simpa using hask.stages hrequest
  | resetUnsent bytes h hbytes ha =>
      have hsend : Stage.next? (some .reset) (d.command (some .reset)) .commanding
          (.called (.send bytes) (.halts h)) = some (Stage.fallen h) := if_pos hbytes.symm
      simpa using Stage.run_last hsend
  | resetUnclosed bytes a h hbytes ha hok hb =>
      have hsend : Stage.next? (some .reset) (d.command (some .reset)) .commanding
          (.called (.send bytes) a) = some .unplugging := by
        simp [Stage.next?, hbytes, Stage.past_of_success hok]
      have hclose : Stage.next? (some .reset) (d.command (some .reset)) .unplugging
          (.called .disconnect (.halts h)) = some (Stage.fallen h) := rfl
      simpa using Stage.run_cons hsend (Stage.run_last hclose)
  | resetRested bytes a b c k hbytes ha hok hb hokb he hc =>
      have hsend : Stage.next? (some .reset) (d.command (some .reset)) .commanding
          (.called (.send bytes) a) = some .unplugging := by
        simp [Stage.next?, hbytes, Stage.past_of_success hok]
      have hclose : Stage.next? (some .reset) (d.command (some .reset)) .unplugging
          (.called .disconnect b) = some .resting :=
        congrArg some (Stage.past_of_success hokb .resting)
      have hrest : Stage.next? (some .reset) (d.command (some .reset)) .resting
          (.slept World.resetRest) = some .replugging := by simp [Stage.next?]
      have hopen : Stage.next? (some .reset) (d.command (some .reset)) .replugging
          (.called .connect c) = some (Stage.ending c.completion) := by
        simp only [Stage.next?, Stage.past, Answer.completion]
        cases c.failure? <;> rfl
      simpa using Stage.run_cons hsend (Stage.run_cons hclose
        (Stage.run_cons hrest (Stage.run_last hopen)))

theorem Opened.stages
    {result : Except Halt Unit}
    (h : V.Opened d request acts result e) :
    Stage.run request (d.command request) (Stage.start d.line.isOpen) (acts.filter Act.isWork) =
      some (Stage.ending result) := by
  cases h with
  | ready hopen hserve =>
      rw [hopen]
      exact hserve.stages
  | refused h hopen ha =>
      rw [hopen]
      exact Stage.run_last rfl
  | opened a hopen ha hok hserve =>
      rw [hopen]
      have hconnect : Stage.next? request (d.command request) .opening (.called .connect a) =
          some .commanding := congrArg some (Stage.past_of_success hok .commanding)
      exact Stage.run_cons hconnect hserve.stages

/-- The work of a tick goes from its beginning to its end. -/
theorem Course.stages
    {result : Except Halt Unit}
    (h : V.Course d request acts result e) :
    Stage.run request (d.command request) (Stage.start d.line.isOpen) (acts.filter Act.isWork) =
      some .finished := by
  cases h with
  | completed hserve =>
      exact hserve.stages
  | missed f hup hserve =>
      have hfallen : Stage.fallen (.fault f) = .finished := by
        cases f with
        | linkDown text =>
            exact absurd rfl (hup text)
        | _ =>
            rfl
      simpa [hfallen] using hserve.stages
  | severed text a hserve ha hok =>
      rw [List.filter_append]
      refine Stage.run_append hserve.stages ?_
      rw [work_called, work_alarmActs]
      rfl
  | escaped text h hserve ha =>
      rw [List.filter_append]
      exact Stage.run_append hserve.stages rfl
  | exited status hserve =>
      exact hserve.stages

end Vantage

/-! ## Ticks and rows of ticks -/

namespace World

variable {σ : Type} {respond : Responder PortCall σ}

/-- The port of a steady peer is open as the work along a trace has left it. -/
theorem isOpen_line
    (t : Trace)
    (l : AnsweredLine σ) :
    (t.line (.steady respond) l).isOpen =
      (t.work (Peer.steady respond) l.party).foldl Act.opens l.isOpen := by
  induction t generalizing l with
  | nil =>
      rfl
  | cons e rest ih =>
      have hrest := ih (e.line (.steady respond) l)
      rw [Entry.party_line] at hrest
      cases e with
      | port c =>
          exact hrest
      | heard listener event =>
          exact hrest
      | _ =>
          exact hrest

variable {peer : Peer σ}

variable (peer) in
/-- Along a run the line is as its calls have left it. -/
def lined : Passage (World (AnsweredLine σ) Audience) where
  holds w t v := t.line peer w.port = v.port
  stay _ := rfl
  onward := by
    intro w t v u x h k
    rw [Trace.line_append, h, k]

theorem lined_of_asks
    {α : Type}
    {c : PortCall}
    {x : Run (World (AnsweredLine σ) Audience) α}
    (hasks : Asks peer c x) :
    Run.Follows (lined peer) x := by
  intro w
  change (x w).trace.line peer w.port = (x w).state.port
  rw [hasks.trace_eq, hasks.line_eq]
  rfl

variable (name : Value)

theorem lined_embraces :
    (lined peer).Embraces (answeredPort name peer) where
  emit e he w := by
    cases e with
    | port c =>
        cases he
    | _ =>
        exact rfl
  change _ _ := rfl
  connect := lined_of_asks (asks_connect name peer)
  disconnect := lined_of_asks (asks_disconnect name peer)
  discard := lined_of_asks (asks_discard name peer)
  send bs := lined_of_asks (asks_send name peer bs)
  receive n timeout := lined_of_asks (asks_receive name peer n timeout)
  next _ _ := rfl

variable {w u v : World (AnsweredLine σ) Audience}

theorem line_tick :
    (tickAmong (answeredPort name peer) w).trace.line peer w.port =
      (tickAmong (answeredPort name peer) w).state.port :=
  embraced_tickAmong (lined_embraces name) w

theorem party_tick :
    (tickAmong (answeredPort name peer) w).trace.party peer w.port.party =
      (tickAmong (answeredPort name peer) w).state.port.party := by
  rw [← Trace.party_line, line_tick]

theorem isOpen_tick :
    (tickAmong (answeredPort name (.steady respond)) w).state.port.isOpen =
      ((tickAmong (answeredPort name (.steady respond)) w).trace.work (Peer.steady respond)
        w.port.party).foldl Act.opens w.port.isOpen := by
  rw [← line_tick, isOpen_line]

/-- The work of a tick among tame listeners is that of its stages, with closings of the port
between it if the loop ends. -/
theorem stages_tick
    (hw : w.audience.Plans Reaction.isTame) :
    let request := w.courier.control.mailbox.take.1
    let r := tickAmong (answeredPort name peer) w
    ∃ own,
      Stage.run request (w.desk.command request) (Stage.start w.port.isOpen) own = some .finished
      ∧ Act.Interrupted own (r.trace.work peer w.port.party)
      ∧ (r.trace.endsLoop = false → own = r.trace.work peer w.port.party) := by
  intro request r
  obtain ⟨answers, acts, e, hcourse, -, -, -, hshows, -⟩ :=
    exists_course_tick name (placid_hear name w.audience.depth) (patient_of_tame hw)
  refine ⟨acts.filter Act.isWork, hcourse.stages, hshows.work_interrupted, fun hends => ?_⟩
  exact (hshows.work_eq fun e he => by simpa using List.any_eq_false.mp hends e he).symm

variable {name}

theorem turn?_tick
    (hw : w.audience.Plans Reaction.isTame) :
    ((tickAmong (answeredPort name peer) w).trace.work peer w.port.party).foldlM
      Act.turn? false = some false := by
  obtain ⟨own, hstages, hacts, -⟩ := stages_tick name hw
  exact Stage.turn?_of_run hacts hstages fun hnone => by cases hnone

theorem plug?_tick
    (hw : w.audience.Plans Reaction.isTame)
    (hends : (tickAmong (answeredPort name (.steady respond)) w).trace.endsLoop = false) :
    ((tickAmong (answeredPort name (.steady respond)) w).trace.work (Peer.steady respond)
        w.port.party).foldlM Act.plug? w.port.isOpen =
      some (tickAmong (answeredPort name (.steady respond)) w).state.port.isOpen := by
  obtain ⟨own, hstages, -, hwork⟩ := stages_tick name hw
  rw [isOpen_tick, ← hwork hends]
  refine Stage.plug?_of_run hstages fun hopen => ?_
  cases hflag : w.port.isOpen with
  | true =>
      rfl
  | false =>
      rw [hflag] at hopen
      cases hopen

section Rows

variable {starts : List (World (AnsweredLine σ) Audience)} {t : Trace}

/-- Over a row of ticks no command is sent while a reply is awaited. -/
theorem Row.turn?_work
    (h : Row name peer w starts t u) :
    (t.work peer w.port.party).foldlM Act.turn? false = some false := by
  have hclosed {acts : List Act} (hacts : ∀ x ∈ acts, x.closes = true) :
      acts.foldlM Act.turn? false = some false :=
    Stage.turn?_of_run (.of_closes hacts) (Stage.run_nil none [] .finished)
      fun hnone => by cases hnone
  induction h with
  | last haside =>
      exact hclosed haside.1.closes
  | @tick w v u starts s t haside htame hrest ih =>
      rw [Trace.work_append, Trace.work_append, haside.1.party_eq, party_tick, List.foldlM_append,
        hclosed haside.1.closes, Option.bind_eq_bind, Option.bind_some, List.foldlM_append,
        turn?_tick htame]
      exact ih

theorem isOpen_aside
    {s : Trace}
    (h : (Passage.aside (.steady respond) fun _ => true).holds w s v) :
    v.port.isOpen = (s.work (Peer.steady respond) w.port.party).foldl Act.opens w.port.isOpen := by
  rw [← h.1.line_eq, isOpen_line]

/-- Over a row of ticks in none of which a loop ends, nothing is done on a closed port that
needs an open one. -/
theorem Row.plug?_work
    (hends : ∀ v ∈ starts,
      (tickAmong (answeredPort name (.steady respond)) v).trace.endsLoop = false)
    (h : Row name (.steady respond) w starts t u) :
    (t.work (Peer.steady respond) w.port.party).foldlM Act.plug? w.port.isOpen =
      some u.port.isOpen := by
  induction h with
  | last haside =>
      rw [isOpen_aside haside]
      exact Act.plug?_of_closes haside.1.closes _
  | @tick w v u starts s t haside htame hrest ih =>
      have hfirst := Act.plug?_of_closes haside.1.closes w.port.isOpen
      rw [← isOpen_aside haside] at hfirst
      rw [Trace.work_append, Trace.work_append, haside.1.party_eq, party_tick, List.foldlM_append,
        hfirst, Option.bind_eq_bind, Option.bind_some, List.foldlM_append,
        plug?_tick htame (hends v List.mem_cons_self)]
      exact ih fun v hv => hends v (List.mem_cons_of_mem _ hv)

end Rows

/-- Over every row of operations: the work of each tick is that of its stages, with closings of
the port between it if a loop ends in the tick, and is done on an open port if none does; no
command is sent while a reply is awaited; and nothing at all is sent, read or dropped on a
closed port if no loop ends in a tick. -/
theorem half_duplex
    (name : Value)
    (ops : List Operation)
    {w : World (AnsweredLine σ) Audience}
    (hplans : w.audience.Plans Reaction.isTame) :
    let port := answeredPort name (.steady respond)
    let ticks := tickStarts port ops w
    let whole := (chronicle port ops w).work respond w.port.party
    (∀ v ∈ ticks,
      let request := v.courier.control.mailbox.take.1
      let r := tickAmong port v
      let work := r.trace.work respond v.port.party
      (∃ own,
          Stage.run request (v.desk.command request) (Stage.start v.port.isOpen) own =
            some .finished
          ∧ Act.Interrupted own work ∧ (r.trace.endsLoop = false → own = work))
        ∧ (r.trace.endsLoop = false →
          work.foldlM Act.plug? v.port.isOpen = some r.state.port.isOpen))
      ∧ whole.foldlM Act.turn? false = some false
      ∧ ((∀ v ∈ ticks, (tickAmong port v).trace.endsLoop = false) →
        whole.foldlM Act.plug? w.port.isOpen = some (reached port ops w).port.isOpen) := by
  intro port ticks whole
  have hrow : Row name (.steady respond) w ticks (chronicle port ops w) (reached port ops w) :=
    row_of_operations name (.steady respond) ops hplans
  refine ⟨fun v hv => ?_, hrow.turn?_work, fun hends => hrow.plug?_work hends⟩
  have htame := plans_tickStarts ops hplans v hv
  exact ⟨@stages_tick _ (.steady respond) name v htame, plug?_tick htame⟩

/-- A poll beside a parked loop, with a tame listener that waits for the loop to stop: the port
is closed when the command is sent and the reply read. -/
theorem half_duplex_interrupted :
    let port := answeredPort .null (.steady Responder.ofOutcomes)
    let w := unused [] [⟨⟨"rec", .null⟩, [[.performs (.stop false)]]⟩]
    let whole := chronicle port [.start, .poll] w
    w.audience.Plans Reaction.isTame
      ∧ whole.portCalls.map PortCall.word = ["open", "close", "write", "read"]
      ∧ (whole.work Responder.ofOutcomes w.port.party).foldlM Act.plug? w.port.isOpen = none := by
  refine ⟨fun m hm now hnow r hr => ?_, by decide +kernel⟩
  rw [List.mem_singleton.mp hm] at hnow
  rw [List.mem_singleton.mp hnow] at hr
  rw [List.mem_singleton.mp hr]
  rfl

/-- A poll among listeners that do nothing leaves the port open, and nothing is awaited. -/
theorem half_duplex_unused :
    let port := answeredPort .null (.steady Responder.ofOutcomes)
    let w := unused [] [⟨⟨"rec", .null⟩, []⟩]
    let whole := (chronicle port [.poll] w).work Responder.ofOutcomes w.port.party
    whole.length = 3 ∧ whole.foldlM Act.turn? false = some false
      ∧ whole.foldlM Act.plug? false = some true := by
  intro port w whole
  have hplans : w.audience.Plans Reaction.isTame := by
    intro m hm now hnow
    rw [List.mem_singleton.mp hm] at hnow
    cases hnow
  obtain ⟨-, hturn, hplug⟩ := half_duplex .null [.poll] hplans
  have hends : ∀ v ∈ tickStarts port [.poll] w, (tickAmong port v).trace.endsLoop = false := by
    intro v hv
    rw [List.mem_singleton.mp hv]
    decide +kernel
  have hopen : (reached (answeredPort .null (.steady Responder.ofOutcomes)) [.poll]
      w).port.isOpen = true := by
    decide +kernel
  exact ⟨by decide +kernel, hturn, (hplug hends).trans (congrArg some hopen)⟩

end World

end AcceptorHost
