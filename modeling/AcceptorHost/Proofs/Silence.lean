import AcceptorHost.Proofs.LockStep
import AcceptorHost.Proofs.MailHistory

/-!
# Silence after a stop

On the loop's own thread the stop flag is raised just where somebody asks for a stop, and
nothing that listeners do there takes a request out of the mailbox but a tick or a taking of
their own.  Beside the thread a pending stop leaves one thing to do: a row of operations is
quiet (`World.Quiet`) up to where the thread closes the port and ends, and it is quiet
altogether from where a stop has been told of the end up to the next start.
-/

namespace AcceptorHost

/-- What a trace holds besides log records. -/
def Trace.deeds (t : Trace) : Trace := t.filter fun e => e.logLevel?.isNone

@[simp] theorem Trace.deeds_append
    (t u : Trace) :
    (t ++ u).deeds = t.deeds ++ u.deeds :=
  List.filter_append ..

/-- A reaction that asks neither for a tick nor for a request out of the mailbox. -/
def Reaction.leavesMail : Reaction → Bool
  | .performs .poll | .performs .takeRequest => false
  | _ => true

/-- Along a run the stop flag is raised just if somebody asks for a stop. -/
def Passage.heeded
    {σ : Type} :
    Passage (World σ Audience) where
  holds w t v :=
    v.courier.control.stopFlag = true ↔
      w.courier.control.stopFlag = true ∨ LoopMark.stopAsked ∈ t.loopMarks
  stay w := by
    change _ ↔ _ ∨ LoopMark.stopAsked ∈ []
    simp
  onward := by
    intro w t v u x hfirst hsecond
    rw [hsecond, hfirst, Trace.loopMarks_append, List.mem_append, or_assoc]

/-- Along a run no request is lost that waits. -/
def Passage.retained
    {σ : Type} :
    Passage (World σ Audience) where
  holds w _ v :=
    ∀ r, w.courier.control.mailbox.holds r = true → v.courier.control.mailbox.holds r = true
  stay _ _ h := h
  onward hfirst hsecond r h := hsecond r (hfirst r h)

/-- A courier whose thread is at work. -/
abbrev Courier.Running (c : Courier) : Prop := c.control.thread = .running

/-- On the loop's thread a passage bears listeners if it does what they do beside the loop, their
stops and their ticks. -/
theorem Passage.bears_of_running
    {σ : Type}
    {p : Passage (World σ Audience)}
    {ok : Reaction → Bool}
    {port : Port σ}
    (hemit : ∀ e : Entry, e.isCall = false → e.loopMark? = none →
      Run.Follows (p.amid Courier.Running ok) (Run.emit e))
    (hunaudited : p.Unaudited)
    (hbeside : ∀ (deliver : Deliver σ Audience) {op : Operation}, op.isBeside = true →
      ok (.performs op) = true →
        Run.Follows (p.amid Courier.Running ok) (World.perform port deliver op))
    (hstop : ∀ bounded, Run.Follows (p.amid Courier.Running ok) (World.requestStop port bounded))
    (htick : ok (.performs .poll) = true →
      ∀ {deliver : Deliver σ Audience}, World.Mild Courier.Running ok p deliver →
        Run.Follows (p.amid Courier.Running ok) (World.tick port deliver)) :
    p.Bears Courier.Running ok port where
  emit := hemit
  unaudited := hunaudited
  perform := by
    intro deliver hdeliver op hop
    cases hkind : op.isBeside with
    | true =>
        exact hbeside deliver hkind hop
    | false =>
        cases op with
        | poll =>
            exact (htick hop hdeliver).bind fun _ => Run.Follows.give _
        | dispatch e =>
            exact (Run.Follows.fire hdeliver.follows (fun _ _ => hemit _ rfl rfl) e).bind fun _ =>
              Run.Follows.give _
        | start =>
            have hstart : Run.Follows (p.amid Courier.Running ok) (World.start port) := by
              intro w hw
              rw [World.start_of_running _ hw.1]
              exact ⟨p.stay w, hw⟩
            exact hstart.bind fun _ => Run.Follows.give _
        | pass =>
            have hpass : Run.Follows (p.amid Courier.Running ok) (World.pass port deliver) := by
              intro w hw
              rw [World.pass_of_not_parked _ deliver (by rw [hw.1]; decide)]
              exact ⟨p.stay w, hw⟩
            exact hpass.bind fun _ => Run.Follows.give _
        | stop bounded =>
            exact (hstop bounded).bind fun _ => Run.Follows.give _
        | _ =>
            cases hkind

namespace World

variable {σ : Type} {port : Port σ} {w : World σ Audience}

/-! ## On the loop's thread -/

section OnThread

variable {ok : Reaction → Bool}

theorem heeded_of_unmarked
    {v : World σ Audience}
    {t : Trace}
    (hmarks : t.loopMarks = [])
    (hstop : v.courier.control.stopFlag = w.courier.control.stopFlag) :
    Passage.heeded.holds w t v := by
  change _ ↔ _
  rw [hmarks, hstop]
  simp

theorem heeded_emit
    {e : Entry}
    (he : e.loopMark? = none) :
    Run.Follows (Passage.heeded.amid Courier.Running ok)
      (Run.emit e : Run (World σ Audience) Unit) := fun _ hw =>
  ⟨heeded_of_unmarked (Trace.loopMarks_cons_none he []) rfl, hw⟩

theorem heeded_change
    {f : Courier → Courier}
    (hthread : ∀ c, (f c).control.thread = c.control.thread)
    (hstop : ∀ c, (f c).control.stopFlag = c.control.stopFlag) :
    Run.Follows (Passage.heeded.amid Courier.Running ok)
      (change f : Run (World σ Audience) Unit) := fun w hw =>
  ⟨heeded_of_unmarked rfl (hstop w.courier), (hthread w.courier).trans hw.1, hw.2⟩

/-- What is called of a port is no stop. -/
theorem heeded_recorded
    {α : Type}
    (c : PortCall)
    (x : Run σ α) :
    Run.Follows (Passage.heeded.amid Courier.Running ok) (onPort (x.recorded c)) := fun _ hw =>
  ⟨heeded_of_unmarked (Trace.loopMarks_cons_none rfl []) rfl, hw⟩

theorem permits_heeded
    {deliver : Deliver σ Audience}
    (hdeliver : ∀ l e, Run.Follows (Passage.heeded.amid Courier.Running ok) (deliver l e)) :
    Passage.Permits (Passage.heeded.amid Courier.Running ok) port.recorded deliver where
  log _ _ hmark := heeded_emit hmark
  failed _ _ := heeded_emit rfl
  slept _ := heeded_emit rfl
  mailbox _ := heeded_change (fun _ => rfl) fun _ => rfl
  turned := heeded_change (fun _ => rfl) fun _ => rfl
  record _ := heeded_change (fun _ => rfl) fun _ => rfl
  connect := heeded_recorded .connect port.connect
  disconnect := heeded_recorded .disconnect port.disconnect
  discard := heeded_recorded .discard port.discard
  send bs := heeded_recorded (.send bs) (port.send bs)
  receive n timeout := heeded_recorded (.receive n timeout) (port.receive n timeout)
  delivered := hdeliver

variable (port) in
/-- Whatever listeners ask for on the loop's thread, only a stop raises the stop flag. -/
theorem heeded_bears :
    Passage.heeded.Bears Courier.Running ok port.recorded := by
  refine Passage.bears_of_running (fun _ _ hmark => heeded_emit hmark)
    (fun _ _ => heeded_of_unmarked rfl rfl) (fun deliver op hop _ w hw => ?_)
    (fun bounded w hw => ?_) fun _ _ hmild => (permits_heeded hmild.follows).tick
  · rw [perform_beside port.recorded deliver hop w]
    exact ⟨heeded_of_unmarked rfl rfl, hw.1, hw.2⟩
  · have hmarks : LoopMark.stopAsked ∈ Trace.loopMarks
        [.log Level.debug "Stopping courier thread...",
          .log Level.warning "request_stop() called from the courier thread; not waiting"] := by
      rw [Trace.loopMarks_cons_some Entry.loopMark?_stopping]
      exact List.mem_cons_self
    rw [requestStop_of_running port.recorded bounded hw.1]
    exact ⟨⟨fun _ => Or.inr hmarks, fun _ => rfl⟩, hw.1, hw.2⟩

theorem retained_of_mailbox
    {α : Type}
    {x : Run (World σ Audience) α}
    (hthread : ∀ w, (x w).state.courier.control.thread = w.courier.control.thread)
    (hmailbox : ∀ w, (x w).state.courier.control.mailbox = w.courier.control.mailbox)
    (haudience : ∀ w, (x w).state.audience = w.audience) :
    Run.Follows (Passage.retained.amid Courier.Running ok) x := by
  intro w hw
  refine ⟨fun r h => ?_, (hthread w).trans hw.1, ?_⟩
  · rw [hmailbox]
    exact h
  · rw [haudience]
    exact hw.2

/-- What a tick does after it has taken what is due loses no request. -/
theorem ticks_retained
    {deliver : Deliver σ Audience}
    (hdeliver : ∀ l e, Run.Follows (Passage.retained.amid Courier.Running ok) (deliver l e)) :
    (Passage.retained.amid Courier.Running ok).kinship.Ticks port deliver port deliver where
  log _ _ := retained_of_mailbox (fun _ => rfl) (fun _ => rfl) fun _ => rfl
  slept _ := retained_of_mailbox (fun _ => rfl) (fun _ => rfl) fun _ => rfl
  ask _ _ := Run.Follows.look _
  turned := retained_of_mailbox (fun _ => rfl) (fun _ => rfl) fun _ => rfl
  record _ := retained_of_mailbox (fun _ => rfl) (fun _ => rfl) fun _ => rfl
  connect := retained_of_mailbox (fun _ => rfl) (fun _ => rfl) fun _ => rfl
  disconnect := retained_of_mailbox (fun _ => rfl) (fun _ => rfl) fun _ => rfl
  discard := retained_of_mailbox (fun _ => rfl) (fun _ => rfl) fun _ => rfl
  send _ := retained_of_mailbox (fun _ => rfl) (fun _ => rfl) fun _ => rfl
  receive _ _ := retained_of_mailbox (fun _ => rfl) (fun _ => rfl) fun _ => rfl
  fire e := Run.Follows.fire hdeliver
    (fun _ _ => retained_of_mailbox (fun _ => rfl) (fun _ => rfl) fun _ => rfl) e

variable (port) in
/-- Listeners that neither tick nor take requests lose none on the loop's thread. -/
theorem retained_bears :
    Passage.retained.Bears Courier.Running Reaction.leavesMail port := by
  refine Passage.bears_of_running
    (fun _ _ _ => retained_of_mailbox (fun _ => rfl) (fun _ => rfl) fun _ => rfl)
    (fun _ _ _ h => h) (fun deliver op hop hok w hw => ?_) (fun bounded w hw => ?_)
    fun hpoll => by cases hpoll
  · rw [perform_beside port deliver hop w]
    refine ⟨fun r h => ?_, hw.1, hw.2⟩
    cases op with
    | request q =>
        exact (Mailbox.holds_add _ q r).mpr (Or.inl h)
    | takeRequest =>
        cases hok
    | _ =>
        exact h
  · rw [requestStop_of_running port bounded hw.1]
    exact ⟨fun _ h => h, hw.1, hw.2⟩

/-- In a tick on the loop's thread the stop flag is raised just if a stop is asked for. -/
theorem heeded_tickAmong
    (port : Port σ)
    (hw : w.courier.Running) :
    Passage.heeded.holds w (tickAmong port.recorded w).trace (tickAmong port.recorded w).state := by
  have hplans : w.audience.Plans fun _ => true := fun _ _ _ _ _ _ => rfl
  have hbears : Passage.heeded.Bears Courier.Running (fun _ => true) port.recorded :=
    heeded_bears port
  have hmild := hbears.mild w.audience.depth
  exact ((permits_heeded hmild.follows).tick w ⟨hw, hplans⟩).1

/-- A tick among listeners that neither tick nor take requests takes what is due and nothing
else. -/
theorem retained_tickAmong
    (port : Port σ)
    (hw : w.courier.Running)
    (hplans : w.audience.Plans Reaction.leavesMail)
    {r : Request}
    (h : w.courier.control.mailbox.take.2.holds r = true) :
    (tickAmong port w).state.courier.control.mailbox.holds r = true := by
  have hmild := (retained_bears port).mild w.audience.depth
  have hticks : Kinship.Ticks _ port _ port _ := ticks_retained hmild.follows
  have hopen : Run.Follows (Passage.retained.amid Courier.Running Reaction.leavesMail)
      (ensureOpen port) :=
    (Run.Follows.look _).bind fun _ => (Run.Follows.give _).ite hticks.connect
  have hrest : Run.Follows (Passage.retained.amid Courier.Running Reaction.leavesMail)
      (exchange port (hear (performNested port w.audience.depth)) w.courier.control.mailbox.take.1
        >>= account (hear (performNested port w.audience.depth))) :=
    (hticks.exchange hopen _).bind hticks.account
  have htick : tickAmong port w = _ := tick_eq port _ w
  rw [htick]
  exact (hrest w.taken ⟨hw, hplans⟩).1 r h

end OnThread

/-! ## Quiet rows -/

/-- Along a row of operations no tick begins, only the operations themselves write the mailbox,
and besides log records nothing is left but some entries. -/
structure Quiet (port : Port σ) (ops : List Operation) (w : World σ Audience) (deeds : Trace) :
    Prop where
  ticks : tickStarts port ops w = []
  mailbox : (reached port ops w).courier.control.mailbox =
    ops.foldl (fun m op => op.mailed m) w.courier.control.mailbox
  deeds_eq : (chronicle port ops w).deeds = deeds

theorem Quiet.nil
    (port : Port σ)
    (w : World σ Audience) :
    Quiet port [] w [] :=
  ⟨rfl, rfl, rfl⟩

/-- An operation is quiet that ticks nowhere and writes the mailbox itself only. -/
theorem Quiet.one
    {op : Operation}
    {t : Trace}
    {x : Except Halt Value}
    {v : World σ Audience}
    (hstep : step port op w = ⟨t, x, v⟩)
    (hticks : op.ticks w.courier = false)
    (hmailbox : v.courier.control.mailbox = op.mailed w.courier.control.mailbox) :
    Quiet port [op] w t.deeds := by
  refine ⟨?_, ?_, ?_⟩
  · unfold tickStarts
    rw [hticks]
    rfl
  · change (step port op w).state.courier.control.mailbox = _
    rw [hstep]
    exact hmailbox
  · rw [chronicle_cons, hstep]
    exact congrArg Trace.deeds (List.append_nil t)

/-- A quiet operation before a quiet row. -/
theorem Quiet.cons
    {op : Operation}
    {rest : List Operation}
    {s t : Trace}
    (hfirst : Quiet port [op] w s)
    (hrest : Quiet port rest (step port op w).state t) :
    Quiet port (op :: rest) w (s ++ t) := by
  have hticks : op.ticks w.courier = false := by
    cases hop : op.ticks w.courier with
    | false =>
        rfl
    | true =>
        have hnone := hfirst.ticks
        unfold tickStarts at hnone
        rw [hop] at hnone
        cases hnone
  have hdeeds : (step port op w).trace.deeds = s := by
    have hone := hfirst.deeds_eq
    rw [chronicle_cons, Trace.deeds_append] at hone
    exact (List.append_nil _).symm.trans hone
  have hmailbox : (step port op w).state.courier.control.mailbox =
      op.mailed w.courier.control.mailbox := hfirst.mailbox
  refine ⟨?_, ?_, ?_⟩
  · unfold tickStarts
    rw [hticks]
    exact hrest.ticks
  · rw [List.foldl_cons, ← hmailbox]
    exact hrest.mailbox
  · rw [chronicle_cons, Trace.deeds_append, hdeeds, hrest.deeds_eq]

/-- An operation beside the loop is quiet and leaves the loop and the port as they are. -/
theorem quiet_beside
    (port : Port σ)
    {op : Operation}
    (hop : op.isBeside = true)
    (w : World σ Audience) :
    let v := (step port op w).state
    Quiet port [op] w []
      ∧ v.port = w.port
      ∧ v.courier.control.thread = w.courier.control.thread
      ∧ v.courier.control.life = w.courier.control.life := by
  have hticks : op.ticks w.courier = false := by
    cases op with
    | poll =>
        cases hop
    | pass =>
        cases hop
    | _ =>
        rfl
  have hstep := step_beside port hop w
  intro v
  have hv : v = _ := congrArg Report.state hstep
  refine ⟨.one hstep hticks rfl, ?_⟩
  rw [hv]
  exact ⟨rfl, rfl, Control.life_congr rfl rfl rfl⟩

/-! ## A loop that was asked to stop -/

/-- A living loop that nothing is at work on has parked. -/
theorem Orderly.parked_of_living
    {asked : Bool}
    (hw : Orderly port w)
    (hlife : w.courier.control.life = .living asked) :
    w.courier.control.thread = .parked ∧ w.courier.control.stopFlag = asked
      ∧ w.courier.control.phase ≠ .stopped := by
  cases halive : w.courier.control.thread.isAlive with
  | false =>
      unfold Control.life at hlife
      rw [halive] at hlife
      cases hphase : w.courier.control.phase <;> rw [hphase] at hlife <;> cases hlife
  | true =>
      rw [Control.life_of_alive halive] at hlife
      refine ⟨?_, Life.living.inj hlife, fun hphase => ?_⟩
      · cases hthread : w.courier.control.thread with
        | parked =>
            rfl
        | running =>
            exact absurd hthread hw.idle
        | _ =>
            rw [hthread] at halive
            cases halive
      · rw [hw.control.stopped hphase] at halive
        cases halive

/-- A quiet row in which the thread of a loop closes the port and ends, or lives on asked to
stop. -/
def WindsDown (port : Port σ) (ops : List Operation) (w : World σ Audience) : Prop :=
  Quiet port ops w [.port .disconnect]
      ∧ (reached port ops w).courier.control.thread = .ended
      ∧ port.isOpen (reached port ops w).port = false
    ∨ Quiet port ops w [] ∧ (reached port ops w).courier.control.life = .living true

/-- A stop of a living loop winds it down. -/
theorem windsDown_stop
    (hport : port.Dependable)
    (hw : Orderly port w)
    {asked : Bool}
    (hlife : w.courier.control.life = .living asked)
    (bounded : Bool) :
    WindsDown port.recorded [.stop bounded] w := by
  obtain ⟨hparked, -, hphase⟩ := hw.parked_of_living hlife
  cases bounded with
  | true =>
      have halive : w.stopAsked.courier.control.thread.isAlive = true := by
        change w.courier.control.thread.isAlive = true
        rw [hparked]
        rfl
      have hstop := step_stop_of_parked_bounded port.recorded hparked hphase
      refine Or.inr ⟨.one hstop rfl rfl, ?_⟩
      unfold reached
      rw [hstop]
      exact Control.life_of_alive halive
  | false =>
      have hstop := step_stop_of_parked hport hparked
      refine Or.inl ⟨.one hstop rfl rfl, ?_⟩
      unfold reached
      rw [hstop]
      exact ⟨rfl, hport.closed w.port⟩

/-- So does every operation of a lock-step run once a stop was asked for. -/
theorem windsDown_of_asked
    (hport : port.Dependable)
    (hw : Orderly port w)
    (hlife : w.courier.control.life = .living true)
    {op : Operation}
    (hop : op.isLockStep = true) :
    WindsDown port.recorded [op] w := by
  obtain ⟨hparked, hstop, -⟩ := hw.parked_of_living hlife
  rcases op.cases_of_isLockStep hop with hkind | rfl | rfl | ⟨bounded, rfl⟩
  · obtain ⟨hquiet, -, -, hsame⟩ := quiet_beside port.recorded hkind w
    exact Or.inr ⟨hquiet, hsame.trans hlife⟩
  · have hstart := step_start_of_alive port.recorded (w := w) (by rw [hparked]; rfl)
    refine Or.inr ⟨.one hstart rfl rfl, ?_⟩
    unfold reached
    rw [hstart]
    exact hlife
  · have hticks : Operation.pass.ticks w.courier = false := by simp [Operation.ticks, hstop]
    have hended : rested port w.atWork = ended port w.atWork := rested_of_asked hstop
    have hpass := step_pass_of_idle hport hparked hticks
    rw [hstop, hended] at hpass
    refine Or.inl ⟨.one hpass hticks rfl, ?_⟩
    unfold reached
    rw [hpass]
    exact ⟨rfl, hport.closed w.port⟩
  · exact windsDown_stop hport hw hlife bounded

/-- A row from where a stop is asked for winds the loop down, up to the end of the thread or of
the row. -/
theorem exists_windsDown
    (hport : port.Dependable)
    {asked : Bool} :
    ∀ {more : List Operation}, (∀ op ∈ more, op.isLockStep = true) →
      ∀ {w : World σ Audience}, Orderly port w → w.courier.control.life = .living asked →
        (asked = true ∨ ∃ bounded rest, more = .stop bounded :: rest) →
          ∃ first rest, more = first ++ rest ∧ WindsDown port.recorded first w
            ∧ (rest = [] ∨ (reached port.recorded first w).courier.control.thread = .ended)
  | [], _, w, _, hlife, hasked => by
      rcases hasked with rfl | ⟨bounded, rest, hmore⟩
      · exact ⟨[], [], rfl, Or.inr ⟨.nil _ w, hlife⟩, Or.inl rfl⟩
      · cases hmore
  | op :: more, hops, w, hw, hlife, hasked => by
      have hop := hops op List.mem_cons_self
      have hwinds : WindsDown port.recorded [op] w := by
        rcases hasked with rfl | ⟨bounded, rest, hmore⟩
        · exact windsDown_of_asked hport hw hlife hop
        · cases hmore
          exact windsDown_stop hport hw hlife bounded
      -- Either the thread has ended, or the loop lives on asked to stop, as before the rest.
      rcases hwinds with hends | ⟨hquiet, hliving⟩
      · exact ⟨[op], more, rfl, Or.inl hends, Or.inr hends.2.1⟩
      · have hafter := (ordered_step hport hop w hw).2
        obtain ⟨first, rest, rfl, hrest, hlast⟩ := exists_windsDown hport
          (fun o ho => hops o (List.mem_cons_of_mem op ho)) hafter hliving (Or.inl rfl)
        refine ⟨op :: first, rest, rfl, hrest.imp (fun h => ⟨?_, h.2⟩) fun h => ⟨?_, h.2⟩, hlast⟩
        · exact .cons hquiet h.1
        · exact .cons hquiet h.1

/-! ## A loop without a thread -/

/-- Without a living thread an operation but a start is quiet and leaves the port alone. -/
theorem quiet_step_of_idle
    (hw : Orderly port w)
    (hidle : w.courier.control.thread.isAlive = false)
    {op : Operation}
    (hop : op.isLockStep = true)
    (hstart : op ≠ .start) :
    let v := (step port.recorded op w).state
    Quiet port.recorded [op] w [] ∧ v.port = w.port
      ∧ v.courier.control.thread = w.courier.control.thread := by
  rcases op.cases_of_isLockStep hop with hkind | rfl | rfl | ⟨bounded, rfl⟩
  · obtain ⟨hquiet, hsame, hthread, -⟩ := quiet_beside port.recorded hkind w
    exact ⟨hquiet, hsame, hthread⟩
  · exact absurd rfl hstart
  · have hunparked : w.courier.control.thread ≠ .parked := by
      intro hparked
      rw [hparked] at hidle
      cases hidle
    have hticks : Operation.pass.ticks w.courier = false := by simp [Operation.ticks, hunparked]
    have hpass := step_pass_of_unparked port.recorded hunparked
    refine ⟨.one hpass hticks rfl, ?_⟩
    rw [hpass]
    exact ⟨rfl, rfl⟩
  · cases hthread : w.courier.control.thread with
    | absent =>
        have hstop := step_stop_of_absent port.recorded bounded hthread
        refine ⟨.one hstop rfl rfl, ?_⟩
        rw [hstop]
        exact ⟨rfl, hthread⟩
    | ended =>
        have hstop := step_stop_of_ended port.recorded bounded hthread
          (hw.control.ended hthread)
        refine ⟨.one hstop rfl rfl, ?_⟩
        rw [hstop]
        exact ⟨rfl, hthread⟩
    | _ =>
        rw [hthread] at hidle
        cases hidle

/-- Without a living thread a row is quiet up to a start and leaves the port alone. -/
theorem quiet_of_idle
    (hport : port.Dependable) :
    ∀ {more : List Operation}, (∀ op ∈ more, op.isLockStep = true) → .start ∉ more →
      ∀ {w : World σ Audience}, Orderly port w → w.courier.control.thread.isAlive = false →
        Quiet port.recorded more w [] ∧ (reached port.recorded more w).port = w.port
  | [], _, _, w, _, _ => ⟨.nil _ w, rfl⟩
  | op :: more, hops, hstart, w, hw, hidle => by
      have hop := hops op List.mem_cons_self
      have hne : op ≠ .start := fun h => hstart (h ▸ List.mem_cons_self)
      obtain ⟨hfirst, hsame, hthread⟩ := quiet_step_of_idle hw hidle hop hne
      have hstill : (step port.recorded op w).state.courier.control.thread.isAlive = false := by
        rw [hthread]
        exact hidle
      obtain ⟨hrest, hlast⟩ := quiet_of_idle hport
        (fun o ho => hops o (List.mem_cons_of_mem op ho))
        (fun h => hstart (List.mem_cons_of_mem op h)) (ordered_step hport hop w hw).2 hstill
      exact ⟨.cons hfirst hrest, hlast.trans hsame⟩

/-- An operation does not undo that there was a thread. -/
theorem step_of_alive_ne_absent
    (hport : port.Dependable)
    (hw : Orderly port w)
    (halive : w.courier.control.thread.isAlive = true)
    {op : Operation}
    (hop : op.isLockStep = true) :
    (step port.recorded op w).state.courier.control.thread ≠ .absent := by
  have hlife := Control.life_of_alive halive
  obtain ⟨hparked, -, -⟩ := hw.parked_of_living hlife
  have hne : w.courier.control.thread ≠ .absent := by
    rw [hparked]
    decide
  have hrested (v : World σ Audience) : (rested port v).courier.control.thread ≠ .absent := by
    rw [rested_thread]
    split
    · exact Thread.noConfusion
    · exact Thread.noConfusion
  rcases op.cases_of_isLockStep hop with hkind | rfl | rfl | ⟨bounded, rfl⟩
  · rw [(quiet_beside port.recorded hkind w).2.2.1]
    exact hne
  · rw [step_start_of_alive port.recorded halive]
    exact hne
  · cases hticks : Operation.pass.ticks w.courier with
    | true =>
        rw [step_pass_of_tick hport hw hticks]
        exact hrested _
    | false =>
        rw [step_pass_of_idle hport hparked hticks]
        exact hrested _
  · intro habsent
    rcases windsDown_stop hport hw hlife bounded with ⟨-, hended, -⟩ | ⟨-, hliving⟩
    · exact Thread.noConfusion (habsent.symm.trans hended)
    · have hparked' := (ordered_step hport hop w hw).2.parked_of_living hliving
      exact Thread.noConfusion (habsent.symm.trans hparked'.1)

/-- The port is closed as long as there never was a thread. -/
def Untouched (port : Port σ) (w : World σ Audience) : Prop :=
  w.courier.control.thread = .absent → port.isOpen w.port = false

theorem untouched_step
    (hport : port.Dependable)
    (hw : Orderly port w)
    (huntouched : Untouched port w)
    {op : Operation}
    (hop : op.isLockStep = true) :
    Untouched port (step port.recorded op w).state := by
  intro habsent
  cases halive : w.courier.control.thread.isAlive with
  | true =>
      exact absurd habsent (step_of_alive_ne_absent hport hw halive hop)
  | false =>
      by_cases hstart : op = .start
      · obtain ⟨text, htext⟩ := hw.whole.shown
        rw [hstart, step_start_of_idle port.recorded halive htext] at habsent
        cases habsent
      · obtain ⟨-, hsame, hthread⟩ := quiet_step_of_idle hw halive hop hstart
        rw [hsame]
        exact huntouched (hthread.symm.trans habsent)

/-- After a start there is a thread. -/
theorem untouched_start
    (hport : port.Dependable)
    (hw : Orderly port w) :
    Untouched port (step port.recorded .start w).state := by
  intro habsent
  cases halive : w.courier.control.thread.isAlive with
  | true =>
      exact absurd habsent (step_of_alive_ne_absent hport hw halive rfl)
  | false =>
      obtain ⟨text, htext⟩ := hw.whole.shown
      rw [step_start_of_idle port.recorded halive htext] at habsent
      cases habsent

/-- In a lock-step run from a closed port, or with a start, the port is closed as long as there
never was a thread. -/
theorem untouched_reached
    (hport : port.Dependable) :
    ∀ {ops : List Operation}, (∀ op ∈ ops, op.isLockStep = true) →
      ∀ {w : World σ Audience}, Orderly port w → (Untouched port w ∨ .start ∈ ops) →
        Untouched port (reached port.recorded ops w)
  | [], _, w, _, h => h.resolve_right List.not_mem_nil
  | op :: rest, hops, w, hw, h => by
      have hop := hops op List.mem_cons_self
      have hrest : ∀ o ∈ rest, o.isLockStep = true :=
        fun o ho => hops o (List.mem_cons_of_mem op ho)
      refine untouched_reached hport hrest (ordered_step hport hop w hw).2 ?_
      rcases h with huntouched | hstart
      · exact Or.inl (untouched_step hport hw huntouched hop)
      · rcases List.mem_cons.mp hstart with rfl | hlater
        · exact Or.inl (untouched_start hport hw)
        · exact Or.inr hlater

/-- A stop that has been told of the end leaves no living thread. -/
theorem idle_of_stopped
    (hport : port.Dependable)
    (hw : Orderly port w)
    {bounded : Bool}
    (hstopped : (step port.recorded (.stop bounded) w).result = .ok (.bool true)) :
    (step port.recorded (.stop bounded) w).state.courier.control.thread.isAlive = false := by
  cases halive : w.courier.control.thread.isAlive with
  | false =>
      have hop : (Operation.stop bounded).isLockStep = true := rfl
      rw [(quiet_step_of_idle hw halive hop Operation.noConfusion).2.2]
      exact halive
  | true =>
      obtain ⟨hparked, -, hphase⟩ := hw.parked_of_living (Control.life_of_alive halive)
      cases bounded with
      | true =>
          rw [step_stop_of_parked_bounded port.recorded hparked hphase] at hstopped
          cases hstopped
      | false =>
          rw [step_stop_of_parked hport hparked]
          rfl

/-- While no thread lives the port is closed if it was before there was one. -/
theorem Orderly.closed_of_idle
    (hw : Orderly port w)
    (huntouched : Untouched port w)
    (hidle : w.courier.control.thread.isAlive = false) :
    port.isOpen w.port = false := by
  cases hthread : w.courier.control.thread with
  | absent =>
      exact huntouched hthread
  | ended =>
      exact hw.closed hthread
  | _ =>
      rw [hthread] at hidle
      cases hidle

/--
In a lock-step run of a courier that was made of integers, over a port that can always be
closed and among listeners that halt only in faults:

* a tick of the loop returns, and the pass then waits and parks, unless somebody asked for a stop
  in it or the platform refuses the wait: then the one thing left is to close the port, and the
  thread has ended; among listeners that neither tick nor take requests no request is taken but
  the one that was due;
* once a stop was asked for beside the living thread, or is pending there, whatever is asked for
  is quiet up to where the thread closes the port once and ends;
* once a stop has been told of the end, everything is quiet up to the next start and the port
  stays as it is; it is closed if it was at first or there was a start.
-/
theorem silent_after_stop
    (hport : port.Dependable)
    {longest : Option Binary64}
    {codec : Codec}
    {ms limit : Int}
    {timeout : Value}
    {unsigned : Bool}
    {ops : List Operation}
    {w : World σ Audience}
    (hmade : Courier.create longest codec (.int ms) (.int limit) timeout unsigned = .ok w.courier)
    (hplans : w.audience.Plans Reaction.isContained)
    (hops : ∀ op ∈ ops, op.isLockStep = true) :
    let v := reached port.recorded ops w
    (Operation.pass.ticks v.courier = true →
      let q := tickAmong port.recorded v.atWork
      let r := step port.recorded .pass v
      let asked := q.state.courier.control.stopFlag
      q.result = .ok ()
        ∧ (asked = true ↔ LoopMark.stopAsked ∈ q.trace.loopMarks)
        ∧ r.trace = q.trace ++ Trace.resting q.state.courier
        ∧ r.state.courier.control.thread =
          (if !asked && q.state.courier.policy.canWait then .parked else .ended)
        ∧ (w.audience.Plans Reaction.leavesMail →
          ∀ request, v.courier.control.mailbox.take.2.holds request = true →
            r.state.courier.control.mailbox.holds request = true))
      ∧ (∀ asked more, v.courier.control.life = .living asked →
        (∀ op ∈ more, op.isLockStep = true) →
          (asked = true ∨ ∃ bounded rest, more = .stop bounded :: rest) →
            ∃ first rest, more = first ++ rest ∧ WindsDown port.recorded first v
              ∧ (rest = [] ∨ (reached port.recorded first v).courier.control.thread = .ended))
      ∧ ∀ bounded, (step port.recorded (.stop bounded) v).result = .ok (.bool true) →
        let x := (step port.recorded (.stop bounded) v).state
        (port.isOpen w.port = false ∨ .start ∈ ops → port.isOpen x.port = false)
          ∧ ∀ more, (∀ op ∈ more, op.isLockStep = true) → .start ∉ more →
            Quiet port.recorded more x [] ∧ (reached port.recorded more x).port = x.port := by
  intro v
  obtain ⟨hw, -⟩ : Orderly port w ∧ _ := orderly_create hmade hplans
  have hv : Orderly port v := (ordered_chronicle hport hops hw).2
  refine ⟨fun hticks => ?_, fun asked more hlife hmore hasked => ?_, fun bounded hstopped => ?_⟩
  · intro q r asked
    obtain ⟨hreturns, -, -⟩ := hv.tickAmong_returns hport hticks
    have hr : r = _ := step_pass_of_tick hport hv hticks
    have hheeded : Passage.heeded.holds v.atWork q.trace q.state := heeded_tickAmong port rfl
    have hunasked : v.atWork.courier.control.stopFlag = false := (Operation.ticks_pass hticks).2.1
    refine ⟨hreturns, ?_, by rw [hr], ?_, fun hmail request hrequest => ?_⟩
    · refine hheeded.trans ?_
      rw [hunasked]
      simp
    · rw [hr]
      exact rested_thread port q.state
    · have hkept := retained_tickAmong port.recorded (w := v.atWork) rfl
        (plans_reached port.recorded ops hmail) hrequest
      rw [hr]
      exact (congrArg (·.holds request) (rested_mailbox port q.state)).trans hkept
  · exact exists_windsDown hport hmore hv hlife hasked
  · intro x
    have hop : (Operation.stop bounded).isLockStep = true := rfl
    have hx : Orderly port x := (ordered_step hport hop v hv).2
    have hidle := idle_of_stopped hport hv hstopped
    refine ⟨fun hbefore => ?_, fun more hmore hstart => quiet_of_idle hport hmore hstart hx hidle⟩
    have huntouched : Untouched port v :=
      untouched_reached hport hops hw (hbefore.imp (fun hclosed _ => hclosed) id)
    exact hx.closed_of_idle (untouched_step hport hv huntouched rfl) hidle

/-- A listener asks in the first tick for a stop and a start and fails; the tick goes on, the loop
ends after it with the reset still waiting, and what callers ask for then is quiet. -/
theorem silent_after_stop_in_tick :
    let port := (⟨.text "dev0", .int 9600, .float SerialPort.usualTimeout⟩ : SerialPort).port
      SerialLibrary.ofAnswers
    let who : Listener := ⟨"rec", .null⟩
    let w := { unopened [] [] with
      audience :=
        [⟨who, [[.performs (.stop false), .performs .start, .halts (.fault .wrongType)]]⟩] }
    let ops : List Operation := [.subscribe who, .request .reset, .request .identity, .start]
    let more : List Operation := [.pass, .request .identity, .stop false, .takeRequest, .pass]
    let v := reached port.recorded ops w
    let q := tickAmong port.recorded v.atWork
    let r := step port.recorded .pass v
    let x := (step port.recorded (.stop true) r.state).state
    q.trace.portCalls = [.connect, .send v.courier.codec.identityCommand, .receive 11 .null]
      ∧ r.trace = q.trace
        ++ [.waited Policy.leastInterval, .port .disconnect, .log Level.info "Courier stopped"]
      ∧ r.state.courier.control.mailbox.holds .reset = true
      ∧ port.isOpen x.port = false
      ∧ Quiet port.recorded more x [] := by
  intro port who w ops more v q r x
  have hport : port.Dependable := SerialPort.dependable SerialLibrary.ofAnswers_plain _
  have hmade : Courier.create _ _ _ _ _ _ = .ok w.courier := create_unused w.port.library
  have hplans : w.audience.Plans Reaction.isContained := by decide
  have hmail : w.audience.Plans Reaction.leavesMail := by decide
  have hops : ∀ op ∈ ops, op.isLockStep = true := by decide
  have hpassed : ∀ op ∈ ops ++ [.pass], op.isLockStep = true := by decide
  have hticks : Operation.pass.ticks v.courier = true := by decide +kernel
  have hasked : q.state.courier.control.stopFlag = true := by decide +kernel
  have hwait : q.state.courier.policy.pollInterval = Policy.leastInterval := by decide +kernel
  have hcalls : q.trace.portCalls =
      [.connect, .send v.courier.codec.identityCommand, .receive 11 .null] := by decide +kernel
  have hreset : v.courier.control.mailbox.take.2.holds .reset = true := by decide +kernel
  have hstopped : (step port.recorded (.stop true) r.state).result = .ok (.bool true) := by
    decide +kernel
  clear_value w
  have hbefore := silent_after_stop hport hmade hplans hops
  have hafter := silent_after_stop hport hmade hplans hpassed
  obtain ⟨-, -, htrace, -, hkept⟩ := hbefore.1 hticks
  obtain ⟨hclosed, hquiet⟩ := hafter.2.2 true hstopped
  have hresting : q.trace ++ Trace.resting q.state.courier = q.trace
      ++ [.waited Policy.leastInterval, .port .disconnect, .log Level.info "Courier stopped"] := by
    unfold Trace.resting
    rw [if_pos (Courier.canWait_of_asked hasked), hasked, hwait]
    rfl
  refine ⟨hcalls, htrace.trans hresting, hkept hmail .reset hreset, hclosed (Or.inr ?_),
    (hquiet more (by decide) ?_).1⟩
  · simp [ops]
  · simp [more]

end World

end AcceptorHost
