import AcceptorHost.Proofs.MailHistory
import AcceptorHost.Proofs.OperationLaws
import AcceptorHost.Proofs.Ticks

/-!
# The ledger of the mailbox

Listeners may leave requests in the middle of a tick, so what has happened to the mailbox
cannot be told from the operations of a caller alone.  Here the audience keeps notes: an
operation, whoever asks for it, is noted when it begins if it leaves a request or takes
one.  Without the notes such a run is the run it was before (`performNoted_erases`), and
the notes of a row of operations are a history of the mailbox (`history_ledger`).
-/

namespace AcceptorHost

/-- Listeners that act, and what has happened to the mailbox so far. -/
structure Noted where
  audience : Audience
  notes : List Mail

/-- What an operation does to the mailbox as it begins. -/
def Operation.mail (c : Courier) : Operation → List Mail
  | .request r => [.asked r]
  | .takeRequest => [.took c.control.mailbox.take.1]
  | op => if op.ticks c then [.took c.control.mailbox.take.1] else []

namespace World

variable {σ : Type}

/-- A world with nothing noted yet. -/
def noted (w : World σ Audience) : World σ Noted := ⟨w.courier, w.port, ⟨w.audience, []⟩⟩

/-- A world without its notes. -/
def unnoted (w : World σ Noted) : World σ Audience := ⟨w.courier, w.port, w.audience.audience⟩

/-- An operation is noted. -/
def note (op : Operation) : Run (World σ Noted) Unit :=
  Run.change fun w =>
    { w with audience := { w.audience with notes := w.audience.notes ++ op.mail w.courier } }

/-- Reactions one after another, as in `react`. -/
def reactNoted (act : Operation → Run (World σ Noted) Value) (who : String) :
    List Reaction → Run (World σ Noted) Unit
  | [] => Run.give ()
  | .halts h :: _ => Run.halt h
  | .performs op :: rest => do
      let outcome ← Run.attempt (act op)
      Run.emit (.acted who outcome)
      reactNoted act who rest

/-- A listener hears an event and does what it planned, as in `hear`. -/
def hearNoted (act : Operation → Run (World σ Noted) Value) : Deliver σ Noted :=
  fun l event => do
    Run.emit (.heard l.name event)
    let (now, rest) ← Run.look fun w : World σ Noted => w.audience.audience.next l.name
    Run.change fun w : World σ Noted => { w with audience := { w.audience with audience := rest } }
    reactNoted act l.name now

/-- An operation that is noted, and whose listeners' operations are. -/
def performNoted (port : Port σ) : Nat → Operation → Run (World σ Noted) Value
  | 0, op => do
      note op
      perform port (fun l event => Run.emit (.heard l.name event)) op
  | depth + 1, op => do
      note op
      perform port (hearNoted (performNoted port depth)) op

/-- What happens to the mailbox in a row of operations, whoever asks for it. -/
def ledger (port : Port σ) : List Operation → World σ Audience → List Mail
  | [], _ => []
  | op :: rest, w =>
      (performNoted port (w.audience.depth + 1) op w.noted).state.audience.notes
        ++ ledger port rest (step port op w).state

/-! ## Notes change nothing else -/

/-- A noted run and the run it is without its notes. -/
def erasure : Kinship (World σ Noted) (World σ Audience) where
  kin x y := ∀ w, y w.unnoted = ⟨(x w).trace, (x w).result, (x w).state.unnoted⟩
  give _ _ := rfl
  halt _ _ := rfl
  bind := by
    intro α β x y f g hx hf w
    have hy := hx w
    cases h : (x w).result with
    | ok a =>
        have hok : (y w.unnoted).result = .ok a := by rw [hy, h]
        rw [Run.bind_of_ok h, Run.bind_of_ok hok, hy, hf a]
    | error e =>
        have herror : (y w.unnoted).result = .error e := by rw [hy, h]
        rw [Run.bind_of_error h, Run.bind_of_error herror, hy]
  handle := by
    intro α x y f g hx hf w
    have hy := hx w
    cases h : (x w).result with
    | ok a =>
        have hok : (y w.unnoted).result = .ok a := by rw [hy, h]
        rw [Run.handle_of_ok h, Run.handle_of_ok hok, hy]
    | error e =>
        have herror : (y w.unnoted).result = .error e := by rw [hy, h]
        rw [Run.handle_of_error h, Run.handle_of_error herror, hy, hf e]
  attempt := by
    intro α x y hx w
    have hy := hx w
    change Report.mk (y w.unnoted).trace (.ok (y w.unnoted).result) (y w.unnoted).state = _
    rw [hy]
    rfl

theorem erasure_whole
    {port : Port σ}
    {deliver : Deliver σ Noted}
    {deliver' : Deliver σ Audience}
    (hdeliver : ∀ l e, erasure.kin (deliver l e) (deliver' l e)) :
    erasure.Whole port deliver port deliver' where
  ticks :=
    { log := fun _ _ _ => rfl
      slept := fun _ _ => rfl
      ask := fun _ _ _ => rfl
      turned := fun _ => rfl
      record := fun _ _ => rfl
      connect := fun _ => rfl
      disconnect := fun _ => rfl
      discard := fun _ => rfl
      send := fun _ _ => rfl
      receive := fun _ _ _ => rfl
      fire := fun e => erasure.bind (fun _ => rfl) fun ls =>
        Kinship.dispatch (fun l => hdeliver l e) (fun _ _ => rfl) ls }
  loops :=
    { name_eq := rfl
      log := fun _ _ _ => rfl
      died := fun _ _ => rfl
      waited := fun _ _ => rfl
      look := fun _ _ => rfl
      control := fun _ _ _ => rfl
      disconnect := fun _ => rfl }
  opening := erasure.bind (x := Run.look fun w : World σ Noted => port.isOpen w.port)
    (fun _ => rfl) fun _ => Kinship.ite (fun _ => rfl) fun _ => rfl
  mailbox := fun _ _ => rfl
  listeners := fun _ _ => rfl

theorem reactNoted_erases
    {act : Operation → Run (World σ Noted) Value}
    {act' : Operation → Run (World σ Audience) Value}
    (hact : ∀ op, erasure.kin (act op) (act' op))
    (who : String) :
    ∀ now : List Reaction, erasure.kin (reactNoted act who now) (react act' who now)
  | [] => erasure.give ()
  | .halts h :: _ => erasure.halt h
  | .performs op :: rest =>
      erasure.bind (erasure.attempt (hact op)) fun outcome =>
        erasure.bind (x := Run.emit (.acted who outcome)) (fun _ => rfl) fun _ =>
          reactNoted_erases hact who rest

theorem hearNoted_erases
    {act : Operation → Run (World σ Noted) Value}
    {act' : Operation → Run (World σ Audience) Value}
    (hact : ∀ op, erasure.kin (act op) (act' op))
    (l : Listener)
    (e : Event) :
    erasure.kin (hearNoted act l e) (hear act' l e) := by
  refine erasure.bind (x := Run.emit (.heard l.name e)) (fun _ => rfl) fun _ => ?_
  refine erasure.bind (x := Run.look fun w : World σ Noted => w.audience.audience.next l.name)
    (fun _ => rfl) fun taken => ?_
  exact erasure.bind (fun _ => rfl) fun _ => reactNoted_erases hact l.name taken.1

/-- Without the notes a noted operation is the operation. -/
theorem performNoted_erases
    (port : Port σ) :
    ∀ (depth : Nat) (op : Operation),
      erasure.kin (performNoted port depth op) (performNested port depth op)
  | 0, op =>
      erasure.bind (y := Run.give ()) (fun _ => rfl) fun _ =>
        (erasure_whole fun _ _ _ => rfl : erasure.Whole port _ port hearOnly).perform op
  | depth + 1, op =>
      erasure.bind (y := Run.give ()) (fun _ => rfl) fun _ =>
        (erasure_whole (hearNoted_erases (performNoted_erases port depth))).perform op

/-! ## Notes are a history -/

/-- Along a run the notes grow by a history of the mailbox. -/
def posting : Passage (World σ Noted) where
  holds w _ v := ∃ more,
    v.audience.notes = w.audience.notes ++ more
      ∧ Mailbox.History w.courier.control.mailbox more v.courier.control.mailbox
  stay w := ⟨[], (List.append_nil _).symm, .nil _⟩
  onward := by
    rintro w t v u x ⟨first, hfirst, kfirst⟩ ⟨second, hsecond, ksecond⟩
    refine ⟨first ++ second, ?_, kfirst.append ksecond⟩
    rw [hsecond, hfirst, List.append_assoc]

/-- A run that touches neither the notes nor the mailbox. -/
theorem posting_of_same
    {α : Type}
    {x : Run (World σ Noted) α}
    (hnotes : ∀ w, (x w).state.audience.notes = w.audience.notes)
    (hmailbox : ∀ w,
      (x w).state.courier.control.mailbox = w.courier.control.mailbox) :
    Run.Follows posting x := by
  intro w
  refine ⟨[], by rw [hnotes w, List.append_nil], ?_⟩
  rw [hmailbox w]
  exact .nil _

section Posting

variable (port : Port σ) {deliver : Deliver σ Noted}
  (hdeliver : ∀ l e, Run.Follows posting (deliver l e))
include hdeliver

theorem posting_fire
    (e : Event) :
    Run.Follows posting (fire deliver e) :=
  Run.Follows.fire hdeliver (fun _ _ => posting_of_same (fun _ => rfl) fun _ => rfl) e

theorem posting_ticks :
    posting.kinship.Ticks port deliver port deliver where
  log _ _ := posting_of_same (fun _ => rfl) fun _ => rfl
  slept _ := posting_of_same (fun _ => rfl) fun _ => rfl
  ask _ _ := Run.Follows.look _
  turned := posting_of_same (fun _ => rfl) fun _ => rfl
  record _ := posting_of_same (fun _ => rfl) fun _ => rfl
  connect := posting_of_same (fun _ => rfl) fun _ => rfl
  disconnect := posting_of_same (fun _ => rfl) fun _ => rfl
  discard := posting_of_same (fun _ => rfl) fun _ => rfl
  send _ := posting_of_same (fun _ => rfl) fun _ => rfl
  receive _ _ := posting_of_same (fun _ => rfl) fun _ => rfl
  fire := posting_fire hdeliver

omit hdeliver in
theorem posting_loops :
    (posting (σ := σ)).kinship.Loops port port where
  name_eq := rfl
  log _ _ := posting_of_same (fun _ => rfl) fun _ => rfl
  died _ := posting_of_same (fun _ => rfl) fun _ => rfl
  waited _ := posting_of_same (fun _ => rfl) fun _ => rfl
  look _ := Run.Follows.look _
  control _ hf := posting_of_same (fun _ => rfl) fun _ => hf _
  disconnect := posting_of_same (fun _ => rfl) fun _ => rfl

/-- What a tick takes is noted as it begins, and whatever listeners leave after it. -/
theorem posting_perform_tick
    {op : Operation}
    {w : World σ Noted}
    (h : op.ticks w.courier = true) :
    let v := ((note op >>= fun _ => perform port deliver op) w).state
    ∃ later,
      v.audience.notes =
          w.audience.notes ++ .took w.courier.control.mailbox.take.1 :: later
        ∧ Mailbox.History w.courier.control.mailbox
          (.took w.courier.control.mailbox.take.1 :: later) v.courier.control.mailbox := by
  intro v
  let u : World σ Noted := tickStart op (note op w).state
  have hmail : op.mail w.courier = [.took w.courier.control.mailbox.take.1] := by
    cases op with
    | poll =>
        rfl
    | pass =>
        exact if_pos h
    | _ =>
        cases h
  have hnotes :
      u.audience.notes = w.audience.notes ++ [.took w.courier.control.mailbox.take.1] := by
    rw [← hmail]
    exact congrArg Noted.notes (tickStart_audience op _)
  have hmailbox : u.courier.control.mailbox = w.courier.control.mailbox := tickStart_mailbox op _
  have hrest :
      Run.Follows posting
        (Run.attempt (exchange port deliver u.courier.control.mailbox.take.1 >>= account deliver)
          >>= followUp port op) := by
    have hticks := posting_ticks port hdeliver
    have hopen : Run.Follows posting (ensureOpen port : Run (World σ Noted) Unit) :=
      (Run.Follows.look _).bind fun _ => (Run.Follows.give _).ite hticks.connect
    exact ((hticks.exchange hopen _).bind hticks.account).attempt.bind
      ((posting_loops port).rounds.followUp op)
  have hperform :
      (note op >>= fun _ => perform port deliver op) w =
        (Run.attempt (exchange port deliver u.courier.control.mailbox.take.1 >>= account deliver)
          >>= followUp port op) u.taken := by
    have hnote : (note op w).result = .ok () := rfl
    have htick := Run.attempt_congr (tick_eq port deliver u)
    rw [Run.bind_of_ok hnote, ← Run.bind_congr htick (followUp port op)]
    exact perform_of_tick h
  obtain ⟨later, hlater, hhistory⟩ := hrest u.taken
  rw [← hperform] at hlater hhistory
  refine ⟨later, ?_, .took ?_⟩
  · rw [hlater]
    change u.audience.notes ++ later = _
    rw [hnotes, List.append_assoc]
    rfl
  · change Mailbox.History u.courier.control.mailbox.take.2 later _ at hhistory
    rwa [hmailbox] at hhistory

omit hdeliver in
/-- An operation that does nothing to the mailbox as it begins. -/
theorem posting_note
    {op : Operation}
    {w : World σ Noted}
    (h : op.mail w.courier = []) :
    posting.holds w [] (note op w).state := by
  refine ⟨[], ?_, .nil _⟩
  change w.audience.notes ++ op.mail w.courier = _
  rw [h]

omit hdeliver in
/-- An operation that is a run of its own, and does nothing to the mailbox as it begins. -/
theorem posting_beside
    {op : Operation}
    {w : World σ Noted}
    {x : Run (World σ Noted) Value}
    (hmail : op.mail w.courier = [])
    (hx : Run.Follows posting x)
    (hperform : perform port deliver op (note op w).state = x (note op w).state) :
    posting.holds w ((note op >>= fun _ => perform port deliver op) w).trace
      ((note op >>= fun _ => perform port deliver op) w).state := by
  have hrest := hx (note op w).state
  rw [← hperform] at hrest
  exact posting.onward (posting_note hmail) hrest

/-- Along an operation the notes grow by a history, if they do when listeners are called. -/
theorem posting_perform
    (op : Operation) :
    Run.Follows posting (note op >>= fun _ => perform port deliver op) := by
  intro w
  have hloops := (posting_loops port).rounds
  have hlisteners (f : Registry Listener → Registry Listener) :
      Run.Follows posting (listeners f : Run (World σ Noted) Unit) :=
    posting_of_same (fun _ => rfl) fun _ => rfl
  by_cases h : op.ticks w.courier = true
  · obtain ⟨later, hnotes, hhistory⟩ := posting_perform_tick port hdeliver h
    exact ⟨_, hnotes, hhistory⟩
  · cases op with
    | poll =>
        exact absurd rfl h
    | request r =>
        exact ⟨[.asked r], rfl, .asked r (.nil _)⟩
    | takeRequest =>
        have hstate :
            ((note .takeRequest >>= fun _ => perform port deliver .takeRequest) w).state =
              (note .takeRequest w).state.taken := by
          change (perform port deliver .takeRequest (note .takeRequest w).state).state = _
          refine (Run.bind_silent (fun request v => ?_) takeRequest (note .takeRequest w).state).2
          cases request <;> exact ⟨rfl, rfl⟩
        rw [hstate]
        exact ⟨[.took w.courier.control.mailbox.take.1], rfl, .took (.nil _)⟩
    | pause value =>
        have hpause : Run.Follows posting (setPaused value : Run (World σ Noted) Unit) :=
          posting_of_same (fun _ => rfl) fun _ => rfl
        exact posting_beside port rfl (hpause.bind fun _ => Run.Follows.give _) rfl
    | subscribe l =>
        exact posting_beside port rfl ((hlisteners _).bind fun _ => Run.Follows.give _) rfl
    | unsubscribe l =>
        exact posting_beside port rfl ((hlisteners _).bind fun _ => Run.Follows.give _) rfl
    | unsubscribeAll =>
        exact posting_beside port rfl ((hlisteners _).bind fun _ => Run.Follows.give _) rfl
    | dispatch e =>
        exact posting_beside port rfl ((posting_fire hdeliver e).bind fun _ => Run.Follows.give _)
          rfl
    | count =>
        exact posting_beside port rfl ((Run.Follows.look _).bind fun _ => Run.Follows.give _) rfl
    | start =>
        exact posting_beside port rfl (Run.Follows.bind hloops.start fun _ => Run.Follows.give _)
          rfl
    | stop bounded =>
        exact posting_beside port rfl
          (Run.Follows.bind (hloops.requestStop bounded) fun _ => Run.Follows.give _) rfl
    | pass =>
        have hidle : Run.Follows posting
            (idlePass port >>= fun _ => Run.give Value.null : Run (World σ Noted) Value) :=
          Run.Follows.bind hloops.idlePass fun _ => Run.Follows.give _
        refine posting_beside port (if_neg h) hidle (Run.bind_congr ?_ _)
        exact pass_of_idle (Bool.eq_false_iff.mpr h)

end Posting

theorem posting_react
    {act : Operation → Run (World σ Noted) Value}
    (hact : ∀ op, Run.Follows posting (act op))
    (who : String) :
    ∀ now : List Reaction, Run.Follows posting (reactNoted act who now)
  | [] => Run.Follows.give ()
  | .halts h :: _ => Run.Follows.halt h
  | .performs op :: rest =>
      (hact op).attempt.bind fun _ =>
        Run.Follows.bind (posting_of_same (fun _ => rfl) fun _ => rfl) fun _ =>
          posting_react hact who rest

theorem posting_hear
    {act : Operation → Run (World σ Noted) Value}
    (hact : ∀ op, Run.Follows posting (act op))
    (l : Listener)
    (e : Event) :
    Run.Follows posting (hearNoted act l e) := by
  refine Run.Follows.bind (posting_of_same (fun _ => rfl) fun _ => rfl) fun _ => ?_
  refine (Run.Follows.look _).bind fun taken => ?_
  exact Run.Follows.bind (posting_of_same (fun _ => rfl) fun _ => rfl) fun _ =>
    posting_react hact l.name taken.1

/-- Along an operation with listeners that act the notes grow by a history. -/
theorem posting_performNoted
    (port : Port σ) :
    ∀ (depth : Nat) (op : Operation), Run.Follows posting (performNoted port depth op)
  | 0, op => posting_perform port (fun _ _ => posting_of_same (fun _ => rfl) fun _ => rfl) op
  | depth + 1, op => posting_perform port (posting_hear (posting_performNoted port depth)) op

/-- The ledger of a row of operations is a history of the mailbox. -/
theorem history_ledger
    (port : Port σ)
    (ops : List Operation)
    (w : World σ Audience) :
    Mailbox.History w.courier.control.mailbox (ledger port ops w)
      (reached port ops w).courier.control.mailbox := by
  induction ops generalizing w with
  | nil =>
      exact .nil _
  | cons op rest ih =>
      obtain ⟨more, hnotes, hfirst⟩ :=
        posting_performNoted port (w.audience.depth + 1) op w.noted
      have herased : step port op w = _ :=
        performNoted_erases port (w.audience.depth + 1) op w.noted
      have hledger : ledger port (op :: rest) w = more ++ ledger port rest (step port op w).state :=
        congrArg (· ++ _) hnotes
      have hstep :
          (performNoted port (w.audience.depth + 1) op w.noted).state.courier =
            (step port op w).state.courier := by
        rw [herased]
        rfl
      rw [hledger]
      rw [hstep] at hfirst
      exact hfirst.append (ih _)

/-- An operation that comes to a tick first takes what is due; what listeners ask for comes
later. -/
theorem ledger_of_tick
    {port : Port σ}
    {op : Operation}
    {w : World σ Audience}
    (h : op.ticks w.courier = true) :
    ∃ later, ledger port [op] w = .took w.courier.control.mailbox.take.1 :: later := by
  have hdeliver := posting_hear (posting_performNoted port w.audience.depth)
  obtain ⟨later, hnotes, -⟩ := posting_perform_tick port (w := w.noted) hdeliver h
  exact ⟨later, (List.append_nil _).trans hnotes⟩

/-- Whoever leaves requests and whenever, whatever the port does and however ticks end, a
request waits from when it is left until a tick takes it, and serves that tick alone. -/
theorem requests_serve_once
    (port : Port σ)
    (ops : List Operation)
    (w : World σ Audience) :
    let mail := w.courier.control.mailbox.pending.map .asked ++ ledger port ops w
    (∀ op v, step port op v =
        let r := performNoted port (v.audience.depth + 1) op v.noted
        ⟨r.trace, r.result, r.state.unnoted⟩)
      ∧ (∀ (deliver : Deliver σ Audience) v, tick port deliver v =
        (exchange port deliver v.courier.control.mailbox.take.1 >>= account deliver) v.taken)
      ∧ (∀ op (v : World σ Audience), op.ticks v.courier = true →
        ∃ later, ledger port [op] v = .took v.courier.control.mailbox.take.1 :: later)
      ∧ (∀ r, (reached port ops w).courier.control.mailbox.holds r = true ↔ r.Waits mail)
      ∧ Mail.OneShot mail := by
  intro mail
  have hist : Mailbox.History .empty mail (reached port ops w).courier.control.mailbox :=
    (Mailbox.History.of_pending _).append (history_ledger port ops w)
  exact ⟨fun op v => performNoted_erases port _ op v.noted, fun deliver v => tick_eq port deliver v,
    fun _ _ => ledger_of_tick, fun _ => hist.holds_iff_waits, hist.oneShot⟩

end World

end AcceptorHost
