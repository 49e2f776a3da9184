import AcceptorHost.Console.Session
import AcceptorHost.Proofs.Confinement
import AcceptorHost.Proofs.SerialNumbers
import AcceptorHost.Proofs.Ticks
import Mathlib.Data.String.Basic

/-!
# The loop under watch

The printer of a console session only prints, so whatever the loop tells it, the loop goes
on.  While nobody steers the loop, every pass makes one tick, takes what is due out of the
mailbox, waits and parks again (`Session.pass_going`).  So it goes through any count of
passes, and their ticks take what was left for them, each request once, and then nothing.
Where the platform refuses to wait for one poll interval, the first pass closes the port and is
the last one that ticks.
-/

namespace AcceptorHost

/-! ## What the printer does -/

namespace Text

theorem splitOnAux_newline
    (l r : List Char)
    (hr : '\n' ∉ r) :
    String.splitOnAux (String.ofList (l ++ r)) "\n" 0 ⟨String.utf8Len l⟩ 0 [] =
      [String.ofList (l ++ r)] := by
  induction r generalizing l with
  | nil =>
    have hend : String.Pos.Raw.atEnd (String.ofList (l ++ [])) ⟨String.utf8Len l⟩ = true :=
      (String.atEnd_of_valid l []).mpr rfl
    have hwhole : String.Pos.Raw.extract (String.ofList (l ++ [])) 0 ⟨String.utf8Len l⟩ =
        String.ofList (l ++ []) := by
      have hextract := String.extract_of_valid [] l []
      simpa using hextract
    rw [String.splitOnAux, if_pos hend, hwhole]
    rfl
  | cons c r ih =>
    rw [List.mem_cons, not_or] at hr
    have hend : ¬ String.Pos.Raw.atEnd (String.ofList (l ++ c :: r)) ⟨String.utf8Len l⟩ = true := by
      rw [String.atEnd_of_valid]
      exact List.cons_ne_nil c r
    have hget : String.Pos.Raw.get (String.ofList (l ++ c :: r)) ⟨String.utf8Len l⟩ = c :=
      String.get_of_valid l (c :: r)
    have hbreak : String.Pos.Raw.get "\n" 0 = '\n' := rfl
    have hnext : String.Pos.Raw.next (String.ofList (l ++ c :: r)) ⟨String.utf8Len l⟩ =
        ⟨String.utf8Len (l ++ [c])⟩ := by
      rw [String.next_of_valid, String.utf8Len_append]
      simp
    have hback : (⟨String.utf8Len l⟩ : String.Pos.Raw).unoffsetBy 0 = ⟨String.utf8Len l⟩ := rfl
    have hrest := ih (l ++ [c]) hr.2
    rw [List.append_assoc, List.singleton_append] at hrest
    rw [String.splitOnAux, if_neg hend, hget, hbreak, if_neg (by simpa using Ne.symm hr.1), hback,
      hnext, hrest]

/-- A text without a line break is one line. -/
theorem splitOn_newline
    {s : String}
    (h : '\n' ∉ s.toList) :
    s.splitOn "\n" = [s] := by
  have haux := splitOnAux_newline [] s.toList h
  rw [List.nil_append, String.ofList_toList] at haux
  exact haux

end Text

namespace Session

variable {S σ : Type}

theorem printLines_eq
    (lines : List String)
    (s : S) :
    printLines lines s = ⟨lines.map .printed, .ok (), s⟩ := by
  induction lines with
  | nil =>
      rfl
  | cons line rest ih =>
      have hline : (Run.emit (.printed line) s).result = .ok () := rfl
      rw [printLines, Run.bind_of_ok hline]
      change Report.mk (.printed line :: (printLines rest s).trace) _ _ = _
      rw [ih]
      exact congrArg (fun r : Report S Unit => Report.mk _ r.result r.state) ih

theorem print_eq
    (text : String)
    (s : S) :
    print text s = ⟨(text.splitOn "\n").map .printed, .ok (), s⟩ :=
  printLines_eq _ s

/-- The printer prints what it has to say of an event, and remembers the event. -/
theorem deliver_eq
    (l : Listener)
    (e : Event)
    (w : World σ EventPrinter) :
    deliver l e w =
      ⟨((w.audience.hear e).2.map fun text => (text.splitOn "\n").map Entry.printed).getD [],
        .ok (), { w with audience := (w.audience.hear e).1 }⟩ := by
  have hlook : (Run.look (fun v : World σ EventPrinter => v.audience.hear e) w).result =
      .ok (w.audience.hear e) := rfl
  rw [deliver, Run.bind_of_ok hlook]
  generalize w.audience.hear e = heard
  obtain ⟨printer, said⟩ := heard
  cases said with
  | none =>
      rfl
  | some text =>
      exact print_eq text _

/-- Events that are told to printers return. -/
theorem fire_returns
    (e : Event)
    (w : World σ EventPrinter) :
    (World.fire deliver e w).result = .ok () := by
  have htold : ∀ (ls : List Listener) (v : World σ EventPrinter),
      (Run.dispatch Listener.name deliver e ls v).result = .ok () := by
    intro ls
    induction ls with
    | nil =>
        intro v
        rfl
    | cons l rest ih =>
        intro v
        have hcontained : (Run.contained Listener.name deliver e l v).result = .ok () :=
          Run.contained_ok fun k hk => by
            rw [deliver_eq] at hk
            cases hk
        rw [Run.dispatch, Run.bind_of_ok hcontained]
        exact ih _
  exact htold w.courier.listeners.listeners w

end Session

/-! ## What a tick keeps -/

/-- The passage that forgets everything. -/
def Passage.anywhere {S : Type} : Passage S where
  holds _ _ _ := True
  stay _ := trivial
  onward _ _ := trivial

/-- An invariant is kept where it is kept by the change of the state. -/
theorem Run.Follows.of_state
    {S α : Type}
    {inv : S → Prop}
    {x : Run S α}
    (h : ∀ s, inv s → inv (x s).state) :
    Run.Follows (Passage.anywhere.under inv) x := fun s hs => ⟨trivial, h s hs⟩

namespace Session

variable {σ : Type} {port : Port σ}

/-- The retry limit is an integer. -/
def Limited (w : World σ EventPrinter) : Prop :=
  ∃ n, w.courier.policy.retryLimit = .int n

/-- The serial number is not known, or its text was written from five bytes. -/
def Legible (w : World σ EventPrinter) : Prop :=
  ∀ text, w.courier.record.serialNumber = some text →
    ∃ unsigned bs, SerialNumber.ofBytes unsigned bs = .ok text

/-- What a caller sees of the control state and the policy stays as it is. -/
def unsteered : Passage (World σ EventPrinter) where
  holds w _ v := v.courier.control = w.courier.control ∧ v.courier.policy = w.courier.policy
  stay _ := ⟨rfl, rfl⟩
  onward h k := ⟨k.1.trans h.1, k.2.trans h.2⟩

theorem unsteered_deliver
    (l : Listener)
    (e : Event) :
    Run.Follows unsteered (deliver l e : Run (World σ EventPrinter) Unit) := by
  intro w
  rw [deliver_eq]
  exact ⟨rfl, rfl⟩

/-- What a tick does after it has taken what is due steers nothing. -/
theorem ticks_unsteered :
    (unsteered (σ := σ)).kinship.Ticks port deliver port deliver where
  log _ _ _ := ⟨rfl, rfl⟩
  slept _ _ := ⟨rfl, rfl⟩
  ask _ _ := Run.Follows.look _
  turned _ := ⟨rfl, rfl⟩
  record _ _ := ⟨rfl, rfl⟩
  connect _ := ⟨rfl, rfl⟩
  disconnect _ := ⟨rfl, rfl⟩
  discard _ := ⟨rfl, rfl⟩
  send _ _ := ⟨rfl, rfl⟩
  receive _ _ _ := ⟨rfl, rfl⟩
  fire e := Run.Follows.fire unsteered_deliver (fun _ _ _ => ⟨rfl, rfl⟩) e

/-- A tick takes what is due out of the mailbox and steers nothing else. -/
theorem tick_steers
    (w : World σ EventPrinter) :
    let v := (World.tick port deliver w).state
    v.courier.control =
        { w.courier.control with mailbox := w.courier.control.mailbox.take.2 } ∧
      v.courier.policy = w.courier.policy := by
  have hticks : (unsteered (σ := σ)).kinship.Ticks port deliver port deliver := ticks_unsteered
  have hopen : Run.Follows unsteered (World.ensureOpen port : Run (World σ EventPrinter) Unit) :=
    (Run.Follows.look _).bind fun _ => (Run.Follows.give _).ite hticks.connect
  have hrest : Run.Follows unsteered
      (World.exchange port deliver w.courier.control.mailbox.take.1 >>= World.account deliver) :=
    (hticks.exchange hopen _).bind hticks.account
  rw [World.tick_eq]
  exact hrest w.taken

theorem limited_deliver
    (l : Listener)
    (e : Event) :
    Run.Follows (Passage.anywhere.under Limited)
      (deliver l e : Run (World σ EventPrinter) Unit) :=
  .of_state fun w hw => by
    rw [deliver_eq]
    exact hw

theorem settled_limited
    (hport : port.Yields) :
    World.Settled Limited Passage.anywhere port (deliver : Deliver σ EventPrinter) where
  permits :=
    { log := fun _ _ _ => .of_state fun _ hw => hw
      failed := fun _ _ => .of_state fun _ hw => hw
      slept := fun _ => .of_state fun _ hw => hw
      mailbox := fun _ => .of_state fun _ hw => hw
      record := fun _ => .of_state fun _ hw => hw
      connect := .of_state fun _ hw => hw
      disconnect := .of_state fun _ hw => hw
      discard := .of_state fun _ hw => hw
      receive := fun _ _ => .of_state fun _ hw => hw
      delivered := limited_deliver
      turned := .of_state fun _ hw => hw
      send := fun _ => .of_state fun _ hw => hw }
  yields := hport
  fire e w _ := fire_returns e w
  limit _ hw := hw

theorem legible_deliver
    (l : Listener)
    (e : Event) :
    Run.Follows (Passage.anywhere.under Legible)
      (deliver l e : Run (World σ EventPrinter) Unit) :=
  .of_state fun w hw => by
    rw [deliver_eq]
    exact hw

theorem legible_fire
    (e : Event) :
    Run.Follows (Passage.anywhere.under Legible)
      (World.fire deliver e : Run (World σ EventPrinter) Unit) :=
  Run.Follows.fire legible_deliver (fun _ _ => .of_state fun _ hw => hw) e

theorem legible_fireAll :
    ∀ es : List Event, Run.Follows (Passage.anywhere.under Legible)
      (World.fireAll deliver es : Run (World σ EventPrinter) Unit)
  | [] => Run.Follows.give ()
  | e :: rest => (legible_fire e).bind fun _ => legible_fireAll rest

theorem routine_legible :
    (Passage.anywhere.under Legible).Routine port (deliver : Deliver σ EventPrinter) where
  log _ _ _ _ := .of_state fun _ hw => hw
  slept _ := .of_state fun _ hw => hw
  mailbox _ := .of_state fun _ hw => hw
  accounted _ := .of_state fun _ hw => hw
  connect := .of_state fun _ hw => hw
  disconnect := .of_state fun _ hw => hw
  discard := .of_state fun _ hw => hw
  receive _ _ := .of_state fun _ hw => hw
  traffic _ _ := legible_fire _
  alarm _ := legible_fire _

/-- Whatever a request asks for, a serial number is written down as it was read. -/
theorem legible_serve
    (request : Option Request) :
    Run.Follows (Passage.anywhere.under Legible)
      (World.serve port (deliver : Deliver σ EventPrinter) request) :=
  routine_legible.serve (.of_state fun _ hw => hw) (fun _ => .of_state fun _ hw => hw)
    (fun _ => .of_state fun _ hw => hw)
    (fun unsigned bs _ htext => .of_state fun _ _ _ hknown =>
      ⟨unsigned, bs, Option.some.inj hknown ▸ htext⟩)
    (fun _ => (Run.Follows.look _).bind fun _ =>
      Run.Follows.bind (.of_state fun _ hw => hw) fun _ => legible_fireAll _)
    request

/-! ## Passes -/

/-- A world whose loop waits and is not steered by anybody. -/
structure Going (w : World σ EventPrinter) : Prop where
  /-- The thread stands in a wait. -/
  parked : w.courier.control.thread = .parked
  /-- The loop says that it runs. -/
  running : w.courier.control.phase = .running
  /-- Nobody asked for a stop. -/
  unasked : w.courier.control.stopFlag = false
  /-- Nobody paused the loop. -/
  unpaused : w.courier.control.paused = false
  /-- The retry limit is an integer. -/
  limited : Limited w
  /-- A serial number that is known was read from five bytes. -/
  legible : Legible w

/-- A world whose loop has closed the port and died of a refused wait. -/
structure Stranded (port : Port σ) (w : World σ EventPrinter) : Prop where
  /-- The thread has ended. -/
  ended : w.courier.control.thread = .ended
  /-- The loop says that it has stopped. -/
  stopped : w.courier.control.phase = .stopped
  /-- The port was closed last. -/
  closed : ∃ line, w.port = (port.disconnect line).state
  /-- A serial number that is known was read from five bytes. -/
  legible : Legible w

/-- A loop under watch goes on, or it is stranded. -/
def Watched (port : Port σ) (w : World σ EventPrinter) : Prop := Going w ∨ Stranded port w

theorem Watched.legible
    {w : World σ EventPrinter}
    (hw : Watched port w) :
    Legible w :=
  hw.elim Going.legible Stranded.legible

theorem Going.ticks
    {w : World σ EventPrinter}
    (hw : Going w) :
    Operation.pass.ticks w.courier = true := by
  simp [Operation.ticks, hw.parked, hw.unasked, hw.unpaused]

theorem Stranded.ticks
    {w : World σ EventPrinter}
    (hw : Stranded port w) :
    Operation.pass.ticks w.courier = false := by
  simp [Operation.ticks, hw.ended]

/-- A pass of a loop that goes on makes one tick, which takes what is due; then the loop waits
again, unless the platform refuses the wait. -/
theorem pass_going
    (hport : port.Yields)
    {w : World σ EventPrinter}
    (hw : Going w) :
    ∃ t v, World.pass port deliver w = ⟨t, .ok (), v⟩
      ∧ (w.courier.policy.canWait = true → Going v)
      ∧ (w.courier.policy.canWait = false → Stranded port v)
      ∧ v.courier.policy = w.courier.policy
      ∧ v.courier.control.mailbox = w.courier.control.mailbox.take.2 := by
  let q := World.tick port deliver w.atWork
  obtain ⟨hcontrol, hpolicy⟩ : q.state.courier.control =
        { w.courier.control with mailbox := w.courier.control.mailbox.take.2, thread := .running } ∧
      q.state.courier.policy = w.courier.policy := tick_steers w.atWork
  have hreturns : q.result = .ok () := (settled_limited hport).tick_returns hw.limited
  have hlegible : Legible q.state :=
    (routine_legible.tick legible_serve w.atWork hw.legible).2
  have hunasked : q.state.courier.control.stopFlag = false := by
    rw [hcontrol]
    exact hw.unasked
  have hcan : q.state.courier.canWait = w.courier.policy.canWait := by
    rw [Courier.canWait_of_unasked hunasked, hpolicy]
  have hmailbox : q.state.courier.control.mailbox = w.courier.control.mailbox.take.2 := by
    rw [hcontrol]
  cases hwaits : w.courier.policy.canWait with
  | true =>
      have hpass := World.pass_of_returns hw.ticks hreturns
        (World.concludeThread_waits_on port (hcan.trans hwaits) hunasked)
      refine ⟨_, _, hpass, fun _ => ?_, Bool.noConfusion, hpolicy, hmailbox⟩
      exact {
        parked := rfl
        running := by
          change q.state.courier.control.phase = _
          rw [hcontrol]
          exact hw.running
        unasked := hunasked
        unpaused := by
          change q.state.courier.control.paused = _
          rw [hcontrol]
          exact hw.unpaused
        limited := by
          change ∃ n, q.state.courier.policy.retryLimit = .int n
          rw [hpolicy]
          exact hw.limited
        legible := hlegible }
  | false =>
      have hdies := World.concludeThread_dies port (hport.closes q.state.port)
        (.fault .waitTooLong)
      have hpass := World.pass_of_returns hw.ticks hreturns
        ((World.concludeThread_refused port (hcan.trans hwaits)).trans hdies)
      refine ⟨_, _, hpass, Bool.noConfusion, fun _ => ?_, hpolicy, hmailbox⟩
      exact ⟨rfl, rfl, ⟨q.state.port, rfl⟩, hlegible⟩

/-- A pass of a stranded loop does nothing. -/
theorem pass_stranded
    {w : World σ EventPrinter}
    (hw : Stranded port w) :
    World.pass port deliver w = ⟨[], .ok (), w⟩ :=
  World.pass_of_not_parked port deliver (by rw [hw.ended]; decide)

theorem pass_watched
    (hport : port.Yields)
    {w : World σ EventPrinter}
    (hw : Watched port w) :
    ∃ t v, World.pass port deliver w = ⟨t, .ok (), v⟩ ∧ Watched port v := by
  rcases hw with hgoing | hstranded
  · obtain ⟨t, v, hpass, hgoes, hstrands, -⟩ := pass_going hport hgoing
    refine ⟨t, v, hpass, ?_⟩
    cases hwaits : w.courier.policy.canWait with
    | true =>
        exact .inl (hgoes hwaits)
    | false =>
        exact .inr (hstrands hwaits)
  · exact ⟨[], w, pass_stranded hstranded, .inr hstranded⟩

/-- A watched loop goes through any count of passes. -/
theorem passes_watched
    (hport : port.Yields)
    (n : Nat)
    {w : World σ EventPrinter}
    (hw : Watched port w) :
    ∃ t v, passes port n w = ⟨t, .ok (), v⟩ ∧ Watched port v := by
  induction n generalizing w with
  | zero =>
      exact ⟨[], w, rfl, hw⟩
  | succ n ih =>
      obtain ⟨t, u, hpass, hu⟩ := pass_watched hport hw
      obtain ⟨s, v, hrest, hv⟩ := ih hu
      have hreturns : (World.pass port deliver w).result = .ok () := by rw [hpass]
      refine ⟨t ++ s, v, ?_, hv⟩
      rw [passes, Run.bind_of_ok hreturns, hpass, hrest]

/-- Passes after other passes. -/
theorem passes_add
    (m n : Nat) :
    passes port (m + n) =
      (passes port m >>= fun _ => passes port n : Run (World σ EventPrinter) Unit) := by
  induction m with
  | zero =>
      rw [Nat.zero_add]
      rfl
  | succ m ih =>
      rw [Nat.succ_add, passes, passes, ih, Run.bind_assoc]

/-- The worlds in which the ticks of so many passes begin. -/
def tickStarts (port : Port σ) : Nat → World σ EventPrinter → List (World σ EventPrinter)
  | 0, _ => []
  | n + 1, w =>
      let later := tickStarts port n (World.pass port deliver w).state
      if Operation.pass.ticks w.courier then w.atWork :: later else later

/-- A stranded loop comes to no tick. -/
theorem tickStarts_stranded
    (n : Nat)
    {w : World σ EventPrinter}
    (hw : Stranded port w) :
    tickStarts port n w = [] := by
  induction n with
  | zero =>
      rfl
  | succ n ih =>
      rw [tickStarts, pass_stranded hw, hw.ticks, ih]
      rfl

/-- How many of so many passes tick: all of them, or the first one if its wait is refused. -/
def ticking (policy : Policy) (passes : Nat) : Nat :=
  if policy.canWait then passes else min passes 1

/-- The ticks of a loop that goes on take the requests that wait in their order, and then
nothing. -/
theorem taken_in_order
    (hport : port.Yields)
    (n : Nat)
    {w : World σ EventPrinter}
    (hw : Going w) :
    (tickStarts port n w).map (fun u => u.courier.control.mailbox.take.1) =
      (List.range (ticking w.courier.policy n)).map fun i =>
        w.courier.control.mailbox.pending[i]? := by
  induction n generalizing w with
  | zero =>
      unfold ticking
      rw [Nat.zero_min, ite_self]
      rfl
  | succ n ih =>
      obtain ⟨t, v, hpass, hgoes, hstrands, hpolicy, hmailbox⟩ := pass_going hport hw
      have hfirst := w.courier.control.mailbox.take_eq_pending
      have hothers := w.courier.control.mailbox.pending_take
      rw [tickStarts, if_pos hw.ticks, hpass, List.map_cons]
      unfold ticking at ih ⊢
      cases hwaits : w.courier.policy.canWait with
      | true =>
          rw [ih (hgoes hwaits), hpolicy, hwaits, hmailbox, hothers, if_pos rfl, if_pos rfl,
            List.range_succ_eq_map, List.map_cons, List.map_map, ← hfirst]
          simp only [List.getElem?_tail]
          rfl
      | false =>
          have hone : min (n + 1) 1 = 1 := by omega
          rw [tickStarts_stranded n (hstrands hwaits), if_neg Bool.false_ne_true, hone]
          exact congrArg (· :: []) hfirst

end Session

end AcceptorHost
