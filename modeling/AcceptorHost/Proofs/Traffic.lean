import AcceptorHost.Proofs.Alternation
import AcceptorHost.Proofs.Credits
import AcceptorHost.Proofs.TickRows

/-!
# Traffic that listeners are told of

A listener that stays registered hears of every command right before it is passed to the port,
and of all bytes that are read right after they are.  `Act.Mirrors` says so of a row of acts, as
a grammar: a told command and its call stand together, so do a reading and what is told of it,
and no other act has to do with traffic.  Every course of a tick mirrors the wire, and so does
what happens aside from ticks, where there is no traffic at all.
-/

namespace AcceptorHost

/-- The text of the traffic in a direction that an event tells of. -/
def Event.trafficText? (direction : Direction) : Event → Option String
  | .traffic d text => if d = direction then some text else none
  | _ => none

namespace Act

/-- The commands that acts pass to the port. -/
def commands (acts : List Act) : List (List UInt8) :=
  (calls acts).filterMap fun x => x.1.sent?

/-- An act has nothing to do with traffic. -/
def isMute : Act → Bool
  | .told (.traffic _ _) | .called (.send _) _ | .called (.receive _ _) (.bytes _) => false
  | _ => true

/-- Acts in which each command is told of right before it is passed to the port, all bytes are
told of right after they are read, and no other traffic is told. -/
inductive Mirrors : List Act → Prop
  | nil :
      Mirrors []
  | sent
      {rest : List Act}
      (bs : List UInt8)
      (a : Answer)
      (hrest : Mirrors rest) :
      Mirrors (.told (.traffic .sent (HexText.spaced bs)) :: .called (.send bs) a :: rest)
  | received
      {rest : List Act}
      (n : Int)
      (timeout : Value)
      (x : List UInt8)
      (hrest : Mirrors rest) :
      Mirrors (.called (.receive n timeout) (.bytes x)
        :: .told (.traffic .received (HexText.spaced x)) :: rest)
  | mute
      {rest : List Act}
      {act : Act}
      (hact : act.isMute = true)
      (hrest : Mirrors rest) :
      Mirrors (act :: rest)

namespace Mirrors

theorem append
    {a b : List Act}
    (ha : Mirrors a)
    (hb : Mirrors b) :
    Mirrors (a ++ b) := by
  induction ha with
  | nil =>
      exact hb
  | sent bs x hrest ih =>
      exact .sent bs x ih
  | received n timeout x hrest ih =>
      exact .received n timeout x ih
  | mute hact hrest ih =>
      exact .mute hact ih

theorem of_mute
    {acts : List Act}
    (h : ∀ act ∈ acts, act.isMute = true) :
    Mirrors acts := by
  induction acts with
  | nil =>
      exact .nil
  | cons act rest ih =>
      exact .mute (h act List.mem_cons_self) (ih fun x hx => h x (List.mem_cons_of_mem act hx))

/-- The texts that are told of commands are those of the commands, in order. -/
theorem sentTexts_eq
    {acts : List Act}
    (h : Mirrors acts) :
    (events acts).filterMap (Event.trafficText? .sent) =
      (commands acts).map HexText.spaced := by
  induction h with
  | nil =>
      rfl
  | sent bs a hrest ih =>
      exact congrArg (HexText.spaced bs :: ·) ih
  | received n timeout x hrest ih =>
      exact ih
  | @mute rest act hact hrest ih =>
      cases act with
      | called c a =>
          cases c with
          | send bs =>
              cases hact
          | _ =>
              exact ih
      | told e =>
          cases e with
          | traffic d text =>
              cases hact
          | _ =>
              exact ih
      | _ =>
          exact ih

/-- The texts that are told of what is received are those of the replies, in order. -/
theorem receivedTexts_eq
    {acts : List Act}
    (h : Mirrors acts) :
    (events acts).filterMap (Event.trafficText? .received) =
      (replies acts).map HexText.spaced := by
  induction h with
  | nil =>
      rfl
  | sent bs a hrest ih =>
      exact ih
  | received n timeout x hrest ih =>
      exact congrArg (HexText.spaced x :: ·) ih
  | @mute rest act hact hrest ih =>
      cases act with
      | called c a =>
          rcases c with _ | _ | _ | bs | ⟨n, timeout⟩
          case receive =>
              cases a with
              | bytes x =>
                  cases hact
              | _ =>
                  exact ih
          all_goals exact ih
      | told e =>
          cases e with
          | traffic d text =>
              cases hact
          | _ =>
              exact ih
      | _ =>
          exact ih

end Mirrors

end Act

/-! ## Ticks -/

namespace Vantage

variable {σ τ : Type} {V : Vantage σ τ} {n : String} {d e : Desk σ} {acts : List Act}
  (hwatch : V.watch = some n)
include hwatch

theorem tell_eq
    (x : Event) :
    V.tell x = [.told x] := by
  simp [tell, hwatch]

theorem Collection.mirrors
    {result : Except Halt (List UInt8)}
    (h : V.Collection d acts result e) :
    Act.Mirrors acts := by
  cases h with
  | failed h ha =>
      exact .mute rfl .nil
  | blank ha =>
      exact .mute rfl .nil
  | accepted x ha hx =>
      rw [tell_eq hwatch]
      exact .received _ _ x .nil
  | dropped x a ha hx hb hok =>
      rw [tell_eq hwatch]
      exact .received _ _ x (.mute rfl .nil)
  | stuck x h ha hx hb =>
      rw [tell_eq hwatch]
      exact .received _ _ x (.mute rfl .nil)

theorem Inquiry.mirrors
    {bytes : List UInt8}
    {result : Except Halt (List UInt8)}
    (h : V.Inquiry bytes d acts result e) :
    Act.Mirrors acts := by
  cases h with
  | unsent h ha =>
      rw [tell_eq hwatch]
      exact .sent bytes _ .nil
  | sent a ha hok hread =>
      rw [tell_eq hwatch]
      exact .sent bytes a (hread.mirrors hwatch)

/-- What a frame gives to tell is no traffic. -/
theorem mirrors_news
    (d : Desk σ)
    (x : List UInt8)
    (request : Option Request) :
    Act.Mirrors ((d.news x request).flatMap V.tell) := by
  refine .of_mute fun act hact => ?_
  obtain ⟨event, hevent, hact⟩ := List.mem_flatMap.mp hact
  rw [tell_eq hwatch, List.mem_singleton] at hact
  subst hact
  cases request with
  | none =>
      obtain ⟨kind, -, rfl⟩ := List.mem_map.mp hevent
      cases kind <;> rfl
  | some r =>
      cases hevent

theorem Service.mirrors
    {request : Option Request}
    {result : Except Halt Unit}
    (h : V.Service d request acts result e) :
    Act.Mirrors acts := by
  cases h with
  | failed h hrequest hask =>
      exact hask.mirrors hwatch
  | dropped hrequest hask =>
      exact hask.mirrors hwatch
  | answered x hrequest hx hask =>
      exact (hask.mirrors hwatch).append (mirrors_news hwatch _ x request)
  | resetUnsent bytes h hbytes ha =>
      rw [tell_eq hwatch]
      exact .sent bytes _ .nil
  | resetUnclosed bytes a h hbytes ha hok hb =>
      rw [tell_eq hwatch]
      exact .sent bytes a (.mute rfl .nil)
  | resetRested bytes a b c k hbytes ha hok hb hokb he hc =>
      rw [tell_eq hwatch]
      exact .sent bytes a (.mute rfl (.mute rfl (.mute rfl .nil)))

theorem Opened.mirrors
    {request : Option Request}
    {result : Except Halt Unit}
    (h : V.Opened d request acts result e) :
    Act.Mirrors acts := by
  cases h with
  | ready hopen hserve =>
      exact hserve.mirrors hwatch
  | refused h hopen ha =>
      exact .mute rfl .nil
  | opened a hopen ha hok hserve =>
      exact .mute rfl (hserve.mirrors hwatch)

theorem mirrors_alarmActs
    (d : Desk σ) :
    Act.Mirrors (V.alarmActs d) := by
  unfold alarmActs Desk.alarm
  cases Policy.reached d.policy.retryLimit d.record.failures with
  | error f =>
      exact .nil
  | ok reached =>
      cases reached with
      | false =>
          exact .nil
      | true =>
          simp only [Except.map, if_true, List.flatMap_cons, List.flatMap_nil, tell_eq hwatch]
          exact .mute rfl .nil

/-- Every course of a tick mirrors the wire. -/
theorem Course.mirrors
    {request : Option Request}
    {result : Except Halt Unit}
    (h : V.Course d request acts result e) :
    Act.Mirrors acts := by
  cases h with
  | completed hserve =>
      exact hserve.mirrors hwatch
  | missed f hup hserve =>
      exact (hserve.mirrors hwatch).append (mirrors_alarmActs hwatch _)
  | severed text a hserve ha hok =>
      exact (hserve.mirrors hwatch).append (.mute rfl (mirrors_alarmActs hwatch _))
  | escaped text h hserve ha =>
      exact (hserve.mirrors hwatch).append (.mute rfl .nil)
  | exited status hserve =>
      exact hserve.mirrors hwatch

end Vantage

/-! ## Rows of operations -/

namespace Trace

variable {σ : Type} {peer : Peer σ}

/-- The commands of a trace are those of its acts. -/
theorem commands_acts
    (watch : Option String)
    (t : Trace)
    (s : σ) :
    Act.commands (t.acts peer watch s) = t.commands := by
  induction t generalizing s with
  | nil =>
      rfl
  | cons e rest ih =>
      have hrest := ih (e.party peer s)
      cases e with
      | port c =>
          cases c with
          | send bs =>
              exact congrArg (bs :: ·) hrest
          | _ =>
              exact hrest
      | heard l event =>
          unfold acts
          by_cases hl : watch = some l
          · rw [show (Entry.heard l event).acts peer watch s = [.told event] from if_pos hl]
            exact hrest
          · rw [show (Entry.heard l event).acts peer watch s = [] from if_neg hl]
            exact hrest
      | _ =>
          exact hrest

/-- An act of a trace tells what the watched listener hears, or it tells nothing and belongs to
the trace whoever is watched. -/
theorem mem_acts
    {n : String}
    {act : Act}
    {t : Trace}
    {s : σ}
    (h : act ∈ t.acts peer (some n) s) :
    (∃ e, act = .told e ∧ .heard n e ∈ t) ∨ act.event? = none ∧ act ∈ t.acts peer none s := by
  induction t generalizing s with
  | nil =>
      cases h
  | cons e rest ih =>
      rcases List.mem_append.mp h with hhere | hlater
      · cases e with
        | heard l event =>
            by_cases hl : n = l
            · subst hl
              refine .inl ⟨event, ?_, List.mem_cons_self⟩
              simpa [Entry.acts] using hhere
            · simp [Entry.acts, hl] at hhere
        | port c =>
            refine .inr ⟨?_, List.mem_append_left _ hhere⟩
            rw [List.mem_singleton.mp hhere]
            rfl
        | slept x =>
            refine .inr ⟨?_, List.mem_append_left _ hhere⟩
            rw [List.mem_singleton.mp hhere]
            rfl
        | waited x =>
            refine .inr ⟨?_, List.mem_append_left _ hhere⟩
            rw [List.mem_singleton.mp hhere]
            rfl
        | _ =>
            cases hhere
      · rcases ih hlater with ⟨event, hact, hevent⟩ | ⟨hnone, hact⟩
        · exact .inl ⟨event, hact, List.mem_cons_of_mem _ hevent⟩
        · exact .inr ⟨hnone, List.mem_append_right _ hact⟩

end Trace

namespace World

variable {σ : Type} {peer : Peer σ} {who : Listener} {direct : Bool}

/-- Aside from ticks there is no traffic, if listeners are told nothing of their own. -/
theorem mirrors_aside
    {w v : World (AnsweredLine σ) Audience}
    {t : Trace}
    (n : String)
    (h : (Passage.aside peer fun _ => false).holds w t v) :
    Act.Mirrors (t.acts peer (some n) w.port.party) := by
  refine .of_mute fun act hact => ?_
  rcases Trace.mem_acts hact with ⟨e, -, he⟩ | ⟨hnone, hact⟩
  · cases h.1.heard_own n e he
  · cases act with
    | called c a =>
        have hcloses := h.1.closes (.called c a) (List.mem_filter.mpr ⟨hact, rfl⟩)
        cases c with
        | disconnect =>
            rfl
        | _ =>
            cases hcloses
    | told e =>
        cases hnone
    | _ =>
        rfl

/-- A courteous listener that tells nothing of its own is patient too. -/
theorem patient_of_courteous
    {w : World (AnsweredLine σ) Audience}
    (hwho : w.courier.listeners.Attends who)
    (hplans : w.audience.Plans (Reaction.isCourteous direct (some who))) :
    Patient (fun _ => false) (some who) w := by
  refine ⟨by rintro l ⟨⟩; exact hwho, hplans.mono fun r hr => ?_⟩
  cases r with
  | halts h =>
      simpa [Reaction.isPatient, Reaction.minds, Reaction.isTame, Reaction.isCourteous] using hr
  | performs op =>
      obtain ⟨haside, hspares⟩ := Bool.and_eq_true_iff.mp hr
      cases op <;> simp_all [Reaction.isPatient, Reaction.minds, Reaction.isTame, Operation.isAside,
        Operation.spares]

/-- A tick that may run where it does mirrors the wire, and listeners stay as courteous. -/
theorem tick_mirrors
    (name : Value)
    {w : World (AnsweredLine σ) Audience}
    (hw : (Vantage.courteous peer (some who) direct).Orderly w) :
    let r := tickAmong (answeredPort name peer) w
    Act.Mirrors (r.trace.acts peer (some who.name) w.port.party)
      ∧ r.trace.party peer w.port.party = r.state.port.party
      ∧ (Vantage.courteous peer (some who) direct).Orderly r.state := by
  obtain ⟨acts, result, e, hcourse, hleaves⟩ :=
    Vantage.leaves_tick name (Vantage.discreet_hear _ w.audience.depth) w hw
  have hmirrors : Act.Mirrors acts := hcourse.mirrors rfl
  exact ⟨hleaves.acts_eq ▸ hmirrors, hleaves.party_eq, hleaves.orderly⟩

/-- An operation that spares a listener mirrors the wire to it and leaves it registered. -/
theorem step_mirrors
    (name : Value)
    {op : Operation}
    {w : World (AnsweredLine σ) Audience}
    (hspares : op.spares who = true)
    (hdirect : op = .poll → direct = true)
    (hwho : w.courier.listeners.Attends who)
    (hplans : w.audience.Plans (Reaction.isCourteous direct (some who))) :
    let r := step (answeredPort name peer) op w
    Act.Mirrors (r.trace.acts peer (some who.name) w.port.party)
      ∧ r.trace.party peer w.port.party = r.state.port.party
      ∧ r.state.courier.listeners.Attends who := by
  intro r
  cases hticks : op.ticks w.courier with
  | false =>
      have hminds : (Reaction.performs op).minds (fun _ => false) (some who) = true := by
        cases op with
        | dispatch e =>
            cases hspares
        | _ =>
            exact hspares
      obtain ⟨haside, hafter⟩ :=
        patience_step name hticks hminds (patient_of_courteous hwho hplans)
      exact ⟨mirrors_aside who.name haside, haside.1.party_eq, hafter.1 who rfl⟩
  | true =>
      have hstart : (Vantage.courteous peer (some who) direct).Orderly (tickStart op w) := by
        cases op with
        | poll =>
            exact ⟨⟨by rintro l ⟨⟩; exact hwho, .inl (hdirect rfl)⟩, hplans⟩
        | pass =>
            exact ⟨⟨by rintro l ⟨⟩; exact hwho, .inr rfl⟩, hplans⟩
        | _ =>
            cases hticks
      obtain ⟨hmirrors, hparty, hafter⟩ := tick_mirrors name hstart
      let tick := tickAmong (answeredPort name peer) (tickStart op w)
      obtain ⟨haside, hend⟩ :=
        (patience_concludes name).followUp op tick.result tick.state
          (patient_of_courteous (hafter.1.1 who rfl) hafter.2)
      have hstep : r = _ := step_of_tick hticks
      have hattempt :
          (Run.attempt (tickAmong (answeredPort name peer)) (tickStart op w)).result =
            .ok tick.result := rfl
      rw [Run.bind_of_ok hattempt] at hstep
      have hline : (tickStart op w).port.party = w.port.party := by
        cases op <;> rfl
      rw [hline] at hmirrors hparty
      have hfollows := mirrors_aside who.name haside
      rw [← hparty] at hfollows
      rw [hstep]
      refine ⟨?_, ?_, hend.1 who rfl⟩
      · change Act.Mirrors (Trace.acts peer _ (tick.trace ++ _) _)
        rw [Trace.acts_append]
        exact hmirrors.append hfollows
      · change Trace.party peer (tick.trace ++ _) _ = _
        rw [Trace.party_append, hparty]
        exact haside.1.party_eq

variable (peer) in
/--
To a listener that stays registered the traffic events mirror the wire along every row of
operations, whatever the port answers: each command is told right before it is passed to the
port, all bytes that are read are told right after, and nothing else is told as traffic.  The
texts tell the commands and the replies in full, for they can be read back.

Ticks may run on callers if `direct` says so, and else on the loop's thread alone; then even a
listener may ask for a stop without a bound.
-/
theorem traffic_mirrors_wire
    {w : World (AnsweredLine σ) Audience}
    (name : Value)
    (ops : List Operation)
    (hwho : w.courier.listeners.Attends who)
    (hplans : w.audience.Plans (Reaction.isCourteous direct (some who)))
    (hops : ∀ op ∈ ops, op.spares who = true ∧ (op = .poll → direct = true)) :
    let t := chronicle (answeredPort name peer) ops w
    let told (d : Direction) := (t.heardBy who.name).filterMap (Event.trafficText? d)
    Act.Mirrors (t.acts peer (some who.name) w.port.party)
      ∧ told .sent = t.commands.map HexText.spaced
      ∧ told .received = (t.replies peer w.port.party).map HexText.spaced
      ∧ (told .sent).map HexText.ofSpaced? = t.commands.map some
      ∧ (told .received).map HexText.ofSpaced? = (t.replies peer w.port.party).map some
      ∧ Function.Injective HexText.spaced
      ∧ ∀ bs, HexText.ofSpaced? (HexText.spaced bs) = some bs := by
  intro t told
  have hmirrors : Act.Mirrors (t.acts peer (some who.name) w.port.party) := by
    clear told
    induction ops generalizing w with
    | nil =>
        exact .nil
    | cons op rest ih =>
        obtain ⟨hspares, hdirect⟩ := hops op List.mem_cons_self
        obtain ⟨hfirst, hparty, hafter⟩ := step_mirrors name hspares hdirect hwho hplans
        have hlater := ih hafter (plans_step _ op hplans)
          fun o ho => hops o (List.mem_cons_of_mem op ho)
        change Act.Mirrors (Trace.acts peer _ (_ ++ _) _)
        rw [Trace.acts_append, hparty]
        exact hfirst.append hlater
  have hsent : told .sent = t.commands.map HexText.spaced := by
    have htexts := hmirrors.sentTexts_eq
    rwa [← Trace.heardBy_eq_events, Trace.commands_acts] at htexts
  have hreceived : told .received = (t.replies peer w.port.party).map HexText.spaced := by
    have htexts := hmirrors.receivedTexts_eq
    rwa [← Trace.heardBy_eq_events, Trace.replies_acts] at htexts
  refine ⟨hmirrors, hsent, hreceived, ?_, ?_, HexText.spaced_injective, HexText.ofSpaced?_spaced⟩
  · simp [hsent]
  · simp [hreceived]

/-- Beside a listener that fails and then leaves, a short reply is told before it is dropped,
and a command before its sending fails. -/
theorem traffic_mirrors_wire_unused :
    let outcomes : List (Except Fault (List UInt8)) :=
      [.ok [], .ok [], .ok [0x01, 0xAB], .ok [], .error (.noReply "late")]
    let leaver : Listener := ⟨"leaver", .int 1⟩
    let w := unused outcomes
      [⟨leaver, [[.halts (.fault .wrongType)], [.performs (.unsubscribe leaver)]]⟩,
        ⟨⟨"rec", .null⟩, []⟩]
    let told (d : Direction) :=
      ((chronicle (answeredPort .null (.steady Responder.ofOutcomes)) [.poll, .poll] w).heardBy
        "rec").filterMap (Event.trafficText? d)
    told .sent = ["02 08 10 7F 10 00 03 77", "02 08 11 7F 10 00 03 76"]
      ∧ told .received = ["01 AB"] := by
  intro outcomes leaver w told
  have hwho : w.courier.listeners.Attends ⟨"rec", .null⟩ := rfl
  have hplans : w.audience.Plans (Reaction.isCourteous true (some ⟨"rec", .null⟩)) := by decide
  have hops : ∀ op ∈ [Operation.poll, .poll],
      op.spares ⟨"rec", .null⟩ = true ∧ (op = .poll → true = true) := by
    simp [Operation.spares]
  obtain ⟨-, hsent, hreceived, -⟩ :=
    traffic_mirrors_wire (.steady Responder.ofOutcomes) .null [.poll, .poll] hwho hplans hops
  exact ⟨hsent.trans (by decide +kernel), hreceived.trans (by decide +kernel)⟩

end World

end AcceptorHost
