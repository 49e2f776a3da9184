import AcceptorHost.Proofs.Patience
import AcceptorHost.Proofs.RunRelations
import AcceptorHost.Proofs.TickCases

/-!
# Ticks among patient listeners

A tick among patient listeners may be disturbed: the port may be closed by the end of the
loop in the middle of it, and listeners may tell events of their own.  Its echo is the same
tick over a port that gives the answers which the tick was given, among listeners that do
nothing.  The echo ends as the tick does and leaves the same record, and what is witnessed
of the tick shows the acts of the echo (`Shows`); so every tick among patient listeners has
a course (`exists_course_tick`).
-/

namespace AcceptorHost

/-- A party that gives one answer after another, and nothing after the last one. -/
def Responder.ofList : Responder PortCall (List Answer)
  | _, [] => (.nothing, [])
  | _, a :: rest => (a, rest)

/-- A call does something else than closing the port. -/
def PortCall.keepsOpen : PortCall → Bool
  | .disconnect => false
  | _ => true

namespace Act

/-- Acts are the acts of an exchange, with closings of the port between them. -/
inductive Interrupted : List Act → List Act → Prop
  | done :
      Interrupted [] []
  | act
      {own acts : List Act}
      (x : Act)
      (hrest : Interrupted own acts) :
      Interrupted (x :: own) (x :: acts)
  | closing
      {own acts : List Act}
      (x : Act)
      (hx : x.closes = true)
      (hrest : Interrupted own acts) :
      Interrupted own (x :: acts)

namespace Interrupted

theorem refl :
    ∀ acts : List Act, Interrupted acts acts
  | [] => .done
  | x :: rest => .act x (refl rest)

theorem of_closes :
    ∀ {acts : List Act}, (∀ x ∈ acts, x.closes = true) → Interrupted [] acts
  | [], _ => .done
  | x :: _, h =>
      .closing x (h x List.mem_cons_self) (of_closes fun y hy => h y (List.mem_cons_of_mem x hy))

theorem append
    {a b c d : List Act}
    (h : Interrupted a b)
    (k : Interrupted c d) :
    Interrupted (a ++ c) (b ++ d) := by
  induction h with
  | done =>
      exact k
  | act x hrest ih =>
      exact .act x ih
  | closing x hx hrest ih =>
      exact .closing x hx ih

/-- Closings apart, the calls are those of the exchange. -/
theorem calls_eq
    {own acts : List Act}
    (h : Interrupted own acts) :
    (calls acts).filter (fun x => x.1.keepsOpen) = (calls own).filter fun x => x.1.keepsOpen := by
  induction h with
  | done =>
      rfl
  | act x hrest ih =>
      cases x with
      | called c a =>
          simp only [calls_called, List.filter_cons, ih]
      | _ =>
          exact ih
  | closing x hx hrest ih =>
      cases x with
      | called c a =>
          cases c with
          | disconnect =>
              exact ih
          | _ =>
              cases hx
      | _ =>
          cases hx

end Interrupted

theorem calls_work
    (acts : List Act) :
    calls (acts.filter isWork) = calls acts := by
  unfold calls
  rw [List.filterMap_filter]
  congr 1
  funext x
  cases x <;> rfl

end Act

/-- The point from where an echo is looked at: its one listener has no name and is watched. -/
def Vantage.echo : Vantage (List Answer) Unit where
  peer := .steady Responder.ofList
  watch := some ""
  orderly _ r _ := r.hearers "" = 1

/-- What is witnessed of a trace shows acts: its work is theirs, with closings between it if
the loop ends, and so are the events that listeners did not ask for. -/
structure Trace.Shows {σ : Type} (peer : Peer σ) (own : Event → Bool)
    (who : Option Listener) (t : Trace) (s : σ) (acts : List Act) : Prop where
  work_interrupted : Act.Interrupted (acts.filter Act.isWork) (t.work peer s)
  heard_told : ∀ l e, .heard l e ∈ t → own e = true ∨ .told e ∈ acts
  heardBy_eq : ∀ l, who = some l → (t.heardBy l.name).filter (fun e => !own e) =
    (Act.events acts).filter fun e => !own e
  work_eq : (∀ e ∈ t, e.endsLoop = false) → t.work peer s = acts.filter Act.isWork

theorem Trace.Shows.calls_eq
    {σ : Type}
    {peer : Peer σ}
    {own : Event → Bool}
    {who : Option Listener}
    {t : Trace}
    {s : σ}
    {acts : List Act}
    (h : t.Shows peer own who s acts) :
    (t.calls peer s).filter (fun x => x.1.keepsOpen) =
      (Act.calls acts).filter fun x => x.1.keepsOpen := by
  have hcalls := h.work_interrupted.calls_eq
  unfold Trace.work at hcalls
  rw [Act.calls_work, Act.calls_work] at hcalls
  exact hcalls

theorem Trace.Shows.append
    {σ : Type}
    {peer : Peer σ}
    {own : Event → Bool}
    {who : Option Listener}
    {t u : Trace}
    {s : σ}
    {a b : List Act}
    (h : t.Shows peer own who s a)
    (k : u.Shows peer own who (t.party peer s) b) :
    (t ++ u).Shows peer own who s (a ++ b) where
  work_interrupted := by
    rw [Trace.work_append, List.filter_append]
    exact h.work_interrupted.append k.work_interrupted
  heard_told l e he := by
    rcases List.mem_append.mp he with hfirst | hsecond
    · exact (h.heard_told l e hfirst).imp_right (List.mem_append_left _)
    · exact (k.heard_told l e hsecond).imp_right (List.mem_append_right _)
  heardBy_eq l hl := by
    rw [Trace.heardBy_append, List.filter_append, h.heardBy_eq l hl, k.heardBy_eq l hl,
      Act.events_append, List.filter_append]
  work_eq hends := by
    have hfirst := h.work_eq fun e he => hends e (List.mem_append_left _ he)
    have hsecond := k.work_eq fun e he => hends e (List.mem_append_right _ he)
    rw [Trace.work_append, hfirst, hsecond, List.filter_append]

namespace World

variable {σ α β : Type}

/-- The desk of an echo. -/
def echoDesk (w : World (AnsweredLine σ) Audience) (flag : Bool) (answers : List Answer) :
    Desk (List Answer) :=
  ⟨w.courier.policy, w.courier.codec, w.courier.record, ⟨flag, answers⟩⟩

variable (peer : Peer σ) (own : Event → Bool) (who : Option Listener)

/-- A run among patient listeners goes as its echo does over certain answers. -/
structure Echo (x : Run (World (AnsweredLine σ) Audience) α)
    (y : Run (World (AnsweredLine (List Answer)) Unit) α)
    (w : World (AnsweredLine σ) Audience) (flag : Bool)
    (answers : List Answer) (acts : List Act) (after : Bool) : Prop where
  brings : ∀ rest, Vantage.echo.Brings y (w.echoDesk flag (answers ++ rest)) acts (x w).result
    ((x w).state.echoDesk after rest)
  party_eq : (x w).trace.party peer w.port.party = (x w).state.port.party
  shows : (x w).trace.Shows peer own who w.port.party acts
  patient : Patient own who (x w).state

/-- A run from a world has an echo whose port is open, or is not. -/
def Echoes (x : Run (World (AnsweredLine σ) Audience) α)
    (y : Run (World (AnsweredLine (List Answer)) Unit) α)
    (w : World (AnsweredLine σ) Audience) (flag : Bool) : Prop :=
  ∃ answers acts after, Echo peer own who x y w flag answers acts after

variable {peer own who}

/-! ## Composition -/

/-- A run that stops where another one does has its echo. -/
theorem Echoes.stop
    {x : Run (World (AnsweredLine σ) Audience) α}
    {y : Run (World (AnsweredLine (List Answer)) Unit) α}
    {z : Run (World (AnsweredLine σ) Audience) β}
    {z' : Run (World (AnsweredLine (List Answer)) Unit) β}
    {w : World (AnsweredLine σ) Audience}
    {flag : Bool}
    {result : Except Halt β}
    (hx : Echoes peer own who x y w flag)
    (hz : z w = ⟨(x w).trace, result, (x w).state⟩)
    (hbrings : ∀ {d acts e}, Vantage.echo.Brings y d acts (x w).result e →
      Vantage.echo.Brings z' d acts result e) :
    Echoes peer own who z z' w flag := by
  obtain ⟨answers, acts, after, hx⟩ := hx
  refine ⟨answers, acts, after, fun rest => ?_, ?_, ?_, ?_⟩
  · rw [hz]
    exact hbrings (hx.brings rest)
  · rw [hz]
    exact hx.party_eq
  · rw [hz]
    exact hx.shows
  · rw [hz]
    exact hx.patient

/-- A run that goes on from where another one ends has the echo of both. -/
theorem Echoes.goOn
    {x : Run (World (AnsweredLine σ) Audience) α}
    {y : Run (World (AnsweredLine (List Answer)) Unit) α}
    {k z : Run (World (AnsweredLine σ) Audience) β}
    {k' z' : Run (World (AnsweredLine (List Answer)) Unit) β}
    {w : World (AnsweredLine σ) Audience}
    {flag : Bool}
    (hx : Echoes peer own who x y w flag)
    (hk : ∀ flag, Patient own who (x w).state → Echoes peer own who k k' (x w).state flag)
    (hz : z w = ⟨(x w).trace ++ (k (x w).state).trace, (k (x w).state).result,
      (k (x w).state).state⟩)
    (hbrings : ∀ {d acts e acts' result e'}, Vantage.echo.Brings y d acts (x w).result e →
      Vantage.echo.Brings k' e acts' result e' →
      Vantage.echo.Brings z' d (acts ++ acts') result e') :
    Echoes peer own who z z' w flag := by
  obtain ⟨answers, acts, after, hx⟩ := hx
  obtain ⟨more, later, last, hnext⟩ := hk after hx.patient
  refine ⟨answers ++ more, acts ++ later, last, fun rest => ?_, ?_, ?_, ?_⟩
  · rw [hz, List.append_assoc]
    exact hbrings (hx.brings (more ++ rest)) (hnext.brings rest)
  · rw [hz, Trace.party_append, hx.party_eq, hnext.party_eq]
  · rw [hz]
    refine hx.shows.append ?_
    rw [hx.party_eq]
    exact hnext.shows
  · rw [hz]
    exact hnext.patient

theorem Echoes.bind
    {x : Run (World (AnsweredLine σ) Audience) α}
    {y : Run (World (AnsweredLine (List Answer)) Unit) α}
    {f : α → Run (World (AnsweredLine σ) Audience) β}
    {g : α → Run (World (AnsweredLine (List Answer)) Unit) β}
    {w : World (AnsweredLine σ) Audience}
    {flag : Bool}
    (hx : Echoes peer own who x y w flag)
    (hf : ∀ a v flag, Patient own who v → Echoes peer own who (f a) (g a) v flag) :
    Echoes peer own who (x >>= f) (y >>= g) w flag := by
  cases hr : (x w).result with
  | error h =>
      refine hx.stop (Run.bind_of_error hr) fun hbrings => ?_
      rw [hr] at hbrings
      exact hbrings.bind_error
  | ok a =>
      refine hx.goOn (fun flag hafter => hf a _ flag hafter) (Run.bind_of_ok hr)
        fun hbrings hnext => ?_
      rw [hr] at hbrings
      exact hbrings.bind hnext

theorem Echoes.handle
    {x : Run (World (AnsweredLine σ) Audience) α}
    {y : Run (World (AnsweredLine (List Answer)) Unit) α}
    {f : Halt → Run (World (AnsweredLine σ) Audience) α}
    {g : Halt → Run (World (AnsweredLine (List Answer)) Unit) α}
    {w : World (AnsweredLine σ) Audience}
    {flag : Bool}
    (hx : Echoes peer own who x y w flag)
    (hf : ∀ h v flag, Patient own who v → Echoes peer own who (f h) (g h) v flag) :
    Echoes peer own who (Run.handle x f) (Run.handle y g) w flag := by
  cases hr : (x w).result with
  | ok a =>
      refine hx.stop (Run.handle_of_ok hr) fun hbrings => ?_
      rw [hr] at hbrings
      exact hbrings.handle
  | error h =>
      refine hx.goOn (fun flag hafter => hf h _ flag hafter) (Run.handle_of_error hr)
        fun hbrings hnext => ?_
      rw [hr] at hbrings
      exact hbrings.handle_error hnext

variable (who) in
/-- What happens aside shows no acts. -/
theorem shows_of_aside
    {w v : World (AnsweredLine σ) Audience}
    {t : Trace}
    (h : (Passage.aside peer own).holds w t v) :
    t.Shows peer own who w.port.party [] where
  work_interrupted := .of_closes h.1.closes
  heard_told l e he := Or.inl (h.1.heard_own l e he)
  heardBy_eq l _ := heardBy_of_own h.1.heard_own l.name
  work_eq hends := (h.2 hends).1

/-- A run that follows patience, and that its echo makes without acts. -/
theorem echoes_of_patience
    {x : Run (World (AnsweredLine σ) Audience) α}
    {y : Run (World (AnsweredLine (List Answer)) Unit) α}
    {w : World (AnsweredLine σ) Audience}
    {flag : Bool}
    (hx : Run.Follows (.patience peer own who) x)
    (hw : Patient own who w)
    (hbrings : ∀ rest, Vantage.echo.Brings y (w.echoDesk flag rest) [] (x w).result
      (w.echoDesk flag rest)) :
    Echoes peer own who x y w flag := by
  obtain ⟨haside, hafter⟩ := hx w hw
  refine ⟨[], [], flag, fun rest => ?_, haside.1.party_eq, shows_of_aside who haside, hafter⟩
  have hdesk : (x w).state.echoDesk flag rest = w.echoDesk flag rest := by
    unfold echoDesk
    rw [haside.1.policy_eq, haside.1.codec_eq, haside.1.record_eq]
  rw [hdesk]
  exact hbrings rest

variable (peer own who) in
/-- A run among patient listeners and its echo. -/
def echo : Kinship (World (AnsweredLine σ) Audience) (World (AnsweredLine (List Answer)) Unit) where
  kin x y := ∀ w flag, Patient own who w → Echoes peer own who x y w flag
  give a _ _ hw := echoes_of_patience (Run.Follows.give a) hw fun _ => Vantage.Brings.give a
  halt h _ _ hw := echoes_of_patience (Run.Follows.halt h) hw fun _ => Vantage.Brings.halt h
  bind hx hf w flag hw := (hx w flag hw).bind hf
  handle hx hf w flag hw := (hx w flag hw).handle hf
  attempt := by
    intro α x y hx w flag hw
    obtain ⟨answers, acts, after, h⟩ := hx w flag hw
    refine ⟨answers, acts, after, fun rest u hu hd => ?_, h.party_eq, h.shows, h.patient⟩
    have hleaves := h.brings rest u hu hd
    exact ⟨hleaves.acts_eq, hleaves.party_eq, congrArg Except.ok hleaves.result_eq,
      hleaves.desk_eq, hleaves.orderly⟩

/-! ## The steps of a tick -/

/-- A call on the port shows itself. -/
theorem shows_call
    (c : PortCall)
    (s : σ) :
    Trace.Shows peer own who [.port c] s [.called c (peer c s).1] where
  work_interrupted := .refl _
  heard_told l e he := by cases List.mem_singleton.mp he
  heardBy_eq l _ := rfl
  work_eq _ := rfl

theorem shows_slept
    (x : Binary64)
    (s : σ) :
    Trace.Shows peer own who [.slept x] s [.slept x] where
  work_interrupted := .refl _
  heard_told l e he := by cases List.mem_singleton.mp he
  heardBy_eq l _ := rfl
  work_eq _ := rfl

theorem aside_refl
    (w : World (AnsweredLine σ) Audience) :
    (Passage.aside peer own).holds w [] w := (Passage.aside peer own).stay w

/-- The codec turns over. -/
theorem brings_turned
    {d : Desk (List Answer)} :
    Vantage.echo.Brings (World.change fun c => { c with codec := c.codec.turned }) d [] (.ok ())
      d.turned := by
  intro u hu hd
  subst hd
  exact ⟨rfl, rfl, rfl, rfl, hu⟩

/-- A call on the port echoes a call that is answered by the same answer. -/
theorem echo_call
    {c : PortCall}
    (ending : Answer → Except Halt α)
    {x : Run (World (AnsweredLine σ) Audience) α}
    {y : Run (World (AnsweredLine (List Answer)) Unit) α}
    (hasks : Asks peer c x)
    (hresult : ∀ w, (x w).result = ending (peer c w.port.party).1)
    (hbrings : ∀ (w : World (AnsweredLine σ) Audience) flag a rest,
      Vantage.echo.Brings y (w.echoDesk flag (a :: rest)) [.called c a] (ending a)
        (w.echoDesk (c.opens a flag) rest)) :
    (echo peer own who).kin x y := by
  intro w flag hw
  let a := (peer c w.port.party).1
  refine ⟨[a], [.called c a], c.opens a flag, fun rest => ?_, ?_, ?_, ?_⟩
  · have hdesk : (x w).state.echoDesk (c.opens a flag) rest = w.echoDesk (c.opens a flag) rest := by
      unfold echoDesk
      rw [hasks.courier_eq]
    rw [hdesk, hresult]
    exact hbrings w flag a rest
  · rw [hasks.trace_eq, hasks.party_eq]
    rfl
  · rw [hasks.trace_eq]
    exact shows_call c w.port.party
  · exact Attended.of_eq hw (hasks.courier_eq w) (hasks.audience_eq w)

/-- Listeners that do nothing. -/
def hearNothing : Deliver (AnsweredLine (List Answer)) Unit :=
  fun l event => Run.emit (.heard l.name event)

theorem discreet_hearNothing :
    Vantage.echo.Discreet hearNothing where
  attended := by
    intro t l s hl n hn
    cases hn
    exact hl
  contained l e w hw := by
    have hheard : Vantage.echo.Leaves (Run.emit (.heard l.name e)) w
        (Vantage.echo.hearing l.name e) (.ok ()) w.desk :=
      ⟨List.append_nil _, rfl, rfl, rfl, hw⟩
    exact hheard.handle

/-- What an echo brings is determined by its desk. -/
theorem echo_unique
    {y : Run (World (AnsweredLine (List Answer)) Unit) α}
    {d e e' : Desk (List Answer)}
    {acts acts' : List Act}
    {result result' : Except Halt α}
    (h : Vantage.echo.Brings y d acts result e)
    (h' : Vantage.echo.Brings y d acts' result' e') :
    acts = acts' ∧ result = result' ∧ e = e' := by
  let u : World (AnsweredLine (List Answer)) Unit :=
    ⟨⟨d.policy, d.codec, .fresh, ⟨[⟨"", .null⟩]⟩, d.record⟩, d.line, ()⟩
  have hleaves := h u rfl rfl
  have hleaves' := h' u rfl rfl
  exact ⟨hleaves.acts_eq.symm.trans hleaves'.acts_eq,
    hleaves.result_eq.symm.trans hleaves'.result_eq,
    hleaves.desk_eq.symm.trans hleaves'.desk_eq⟩

section Steps

variable (name : Value) {deliver : Deliver (AnsweredLine σ) Audience}

theorem echo_fire
    (hdeliver : Placid peer own who deliver)
    (e : Event) :
    (echo peer own who).kin (fire deliver e) (fire hearNothing e) := by
  intro w flag hw
  have htells := tells_fire hdeliver e hw
  refine ⟨[], [.told e], flag, fun rest => ?_, htells.aside.1.party_eq, ?_, htells.patient⟩
  · have hbrings := Vantage.brings_fire discreet_hearNothing (d := w.echoDesk flag rest) e
    have hdesk : (fire deliver e w).state.echoDesk flag rest = w.echoDesk flag rest := by
      unfold echoDesk
      rw [htells.aside.1.policy_eq, htells.aside.1.codec_eq, htells.aside.1.record_eq]
    rw [hdesk, htells.result_eq]
    exact hbrings
  · refine ⟨.of_closes htells.aside.1.closes, fun l x hx => ?_, fun l hl => ?_,
      fun hends => (htells.aside.2 hends).1⟩
    · have hown := htells.aside.1.heard_own l x hx
      rw [Bool.or_eq_true, beq_iff_eq] at hown
      exact hown.imp_right fun h => by simp [h]
    · rw [htells.heard_eq l.name, Registry.hearers_of_attends (hw.1 l hl)]
      rfl

theorem echo_ticks
    (hdeliver : Placid peer own who deliver) :
    (echo peer own who).Ticks (answeredPort name peer) deliver
      (answeredPort name (.steady Responder.ofList)) hearNothing where
  log level text _ _ hw :=
    echoes_of_patience (patience_emit rfl) hw fun _ => Vantage.Brings.log level text
  slept x _ flag hw :=
    ⟨[], [.slept x], flag, fun _ => Vantage.Brings.slept x, rfl, shows_slept x _, hw⟩
  ask _ hf _ _ hw :=
    echoes_of_patience (Run.Follows.look _) hw fun _ => Vantage.Brings.ask fun _ hu =>
      hf _ _ (congrArg Desk.policy hu) (congrArg Desk.codec hu) (congrArg Desk.record hu)
  turned w flag hw :=
    ⟨[], [], flag, fun _ => brings_turned, rfl, shows_of_aside who (aside_refl w), hw⟩
  record f w flag hw :=
    ⟨[], [], flag, fun _ => Vantage.Brings.record f, rfl, shows_of_aside who (aside_refl w), hw⟩
  connect := echo_call Answer.completion (asks_connect name peer) (result_call peer .connect)
    (fun _ _ _ _ => Vantage.brings_connect (V := Vantage.echo) name)
  disconnect := echo_call Answer.completion (asks_disconnect name peer)
    (result_call peer .disconnect)
    (fun _ _ _ _ => Vantage.brings_disconnect (V := Vantage.echo) name)
  discard := echo_call Answer.completion (asks_discard name peer) (result_call peer .discard)
    (fun _ _ _ _ => Vantage.brings_discard (V := Vantage.echo) name)
  send bs := echo_call Answer.completion (asks_send name peer bs) (result_call peer (.send bs))
    (fun _ _ _ _ => Vantage.brings_send (V := Vantage.echo) name bs)
  receive n timeout := echo_call Answer.ending (asks_receive name peer n timeout)
    (fun _ => rfl) (fun _ _ _ _ => Vantage.brings_receive (V := Vantage.echo) name n timeout)
  fire := echo_fire hdeliver

/-- The opening of a port echoes over a port that is as open. -/
theorem echoes_ensureOpen
    (hdeliver : Placid peer own who deliver)
    {w : World (AnsweredLine σ) Audience}
    (hw : Patient own who w) :
    Echoes peer own who (ensureOpen (answeredPort name peer))
      (ensureOpen (answeredPort name (.steady Responder.ofList))) w w.port.isOpen := by
  have hlook : Echoes peer own who
      (Run.look fun w => (answeredPort name peer).isOpen w.port)
      (Run.look fun u => (answeredPort name (.steady Responder.ofList)).isOpen u.port)
      w w.port.isOpen := by
    refine echoes_of_patience (Run.Follows.look _) hw fun rest u hu hd => ?_
    refine ⟨rfl, rfl, ?_, hd, hu⟩
    exact congrArg (fun d : Desk (List Answer) => Except.ok d.line.isOpen) hd
  refine hlook.bind fun isOpen v flag hv => ?_
  exact Kinship.ite (K := echo peer own who) ((echo peer own who).give ())
    (echo_ticks name hdeliver).connect v flag hv

/-- An exchange and its accounting echo over a port that is as open. -/
theorem echoes_exchange
    (hdeliver : Placid peer own who deliver)
    (request : Option Request)
    {w : World (AnsweredLine σ) Audience}
    (hw : Patient own who w) :
    Echoes peer own who
      (exchange (answeredPort name peer) deliver request >>= account deliver)
      (exchange (answeredPort name (.steady Responder.ofList)) hearNothing request >>=
        account hearNothing)
      w w.port.isOpen := by
  have hticks := echo_ticks name hdeliver
  have hserved : ∀ v flag, Patient own who v → Echoes peer own who
      (serve (answeredPort name peer) deliver request >>= fun _ => Run.give true)
      (serve (answeredPort name (.steady Responder.ofList)) hearNothing request >>= fun _ =>
        Run.give true)
      v flag :=
    (echo peer own who).bind (hticks.serve request) fun _ => (echo peer own who).give true
  have hopened := (echoes_ensureOpen name hdeliver hw).bind fun _ => hserved
  have hexchange := hopened.handle hticks.recover
  exact hexchange.bind hticks.account

/-- A tick among patient listeners has the course of its echo. -/
theorem exists_course_tick
    (hdeliver : Placid peer own who deliver)
    {w : World (AnsweredLine σ) Audience}
    (hw : Patient own who w) :
    let r := tick (answeredPort name peer) deliver w
    ∃ answers acts e,
      Vantage.echo.Course (w.echoDesk w.port.isOpen answers) w.courier.control.mailbox.take.1 acts
          r.result e
        ∧ r.state.courier.policy = e.policy
        ∧ r.state.courier.record = e.record
        ∧ r.trace.party peer w.port.party = r.state.port.party
        ∧ r.trace.Shows peer own who w.port.party acts
        ∧ Patient own who r.state := by
  intro r
  have htick : r = _ := tick_eq (answeredPort name peer) deliver w
  have htaken : Patient own who w.taken := hw
  obtain ⟨answers, acts, after, hecho⟩ :=
    echoes_exchange name hdeliver w.courier.control.mailbox.take.1 htaken
  have hbrings := hecho.brings []
  rw [List.append_nil] at hbrings
  obtain ⟨acts', result, e, hcourse, hcourse'⟩ :=
    Vantage.exists_course (V := Vantage.echo) name discreet_hearNothing
      (w.echoDesk w.port.isOpen answers) w.courier.control.mailbox.take.1
  obtain ⟨rfl, rfl, rfl⟩ := echo_unique hcourse' hbrings
  rw [htick]
  exact ⟨answers, acts', _, hcourse, rfl, rfl, hecho.party_eq, hecho.shows, hecho.patient⟩

end Steps

end World

end AcceptorHost
