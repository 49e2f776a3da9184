import AcceptorHost.Proofs.Deliveries
import AcceptorHost.Proofs.Frames
import AcceptorHost.Proofs.WholeReplies

/-!
# Replies and the commands that they are taken for

No reply is looked at for its type.  A frame is taken for the reply to the command that was
sent right before it was read: after a normal command it decides on the credit action, the
model and the firmware and is told of, after a query for the serial number it gives that
number (`Matches`).  So what is known and told comes from frames that were read in the
exchange it belongs to, whatever listeners do and however deep their calls are nested; and
a frame of another type, one that comes late, is taken for what was asked for last.
-/

namespace AcceptorHost

/-! ## Exchanges -/

/-- A reply that was read next after a command had been sent. -/
def Act.Exchanged (calls : List (PortCall × Answer)) (bytes x : List UInt8) : Prop :=
  ∃ a n timeout, [(.send bytes, a), (.receive n timeout, .bytes x)] <:+: calls

/-- A frame that was read next after a command that a request asks for. -/
def Act.FrameFor (calls : List (PortCall × Answer)) (request : Option Request) (x : List UInt8) :
    Prop :=
  Frame.accepts x = true ∧ ∃ c : Courier, Exchanged calls (c.commandFor request) x

theorem Act.FrameFor.append_left
    {calls : List (PortCall × Answer)}
    {request : Option Request}
    {x : List UInt8}
    (h : FrameFor calls request x)
    (more : List (PortCall × Answer)) :
    FrameFor (calls ++ more) request x := by
  obtain ⟨hx, c, a, n, timeout, hinfix⟩ := h
  exact ⟨hx, c, a, n, timeout, hinfix.trans (List.prefix_append calls more).isInfix⟩

theorem Act.FrameFor.append_right
    {more : List (PortCall × Answer)}
    {request : Option Request}
    {x : List UInt8}
    (h : FrameFor more request x)
    (calls : List (PortCall × Answer)) :
    FrameFor (calls ++ more) request x := by
  obtain ⟨hx, c, a, n, timeout, hinfix⟩ := h
  exact ⟨hx, c, a, n, timeout, hinfix.trans (List.suffix_append calls more).isInfix⟩

/-- A command tells the request that it was made for. -/
theorem Courier.request_of_commandFor_eq
    {c d : Courier}
    {request other : Option Request}
    (h : c.commandFor request = d.commandFor other) :
    request = other := by
  have hkinds : ∀ a b : Bool,
      Frame.hostType ||| (if a then 1 else 0) ≠ Frame.auxiliaryType ||| (if b then 1 else 0) := by
    decide
  have hnormal (a : CreditAction) (payload : List UInt8) :
      c.codec.normalCommand a ≠ d.codec.stamped Frame.auxiliaryType payload := fun heq =>
    hkinds c.codec.ack d.codec.ack (Frame.encode_inj heq).1
  have hnormal' (a : CreditAction) (payload : List UInt8) :
      c.codec.stamped Frame.auxiliaryType payload ≠ d.codec.normalCommand a := fun heq =>
    hkinds d.codec.ack c.codec.ack (Frame.encode_inj heq).1.symm
  rcases request with _ | _ | _ <;> rcases other with _ | _ | _
  · rfl
  · exact absurd h (hnormal _ _)
  · exact absurd h (hnormal _ _)
  · exact absurd h (hnormal' _ _)
  · rfl
  · cases (Frame.encode_inj h).2
  · exact absurd h (hnormal' _ _)
  · cases (Frame.encode_inj h).2
  · rfl

/-! ## What is drawn from replies -/

/-- What a record newly holds comes from frames that were read for what it is. -/
structure Record.DrawnFrom (F : Option Request → List UInt8 → Prop) (r s : Record) : Prop where
  serialNumber : s.serialNumber = r.serialNumber ∨ ∃ x unsigned text, F (some .identity) x
    ∧ SerialNumber.ofBytes unsigned (Frame.serialPart x) = .ok text ∧ s.serialNumber = some text
  creditAction : s.creditAction = r.creditAction ∨ ∃ x, F none x
    ∧ s.creditAction = Reply.decision x
  model : s.model = r.model ∨ ∃ x, F none x ∧ s.model = some (Reply.dataByte x 3)
  firmware : s.firmware = r.firmware ∨ ∃ x, F none x ∧ s.firmware = some (Reply.dataByte x 4)

namespace Record.DrawnFrom

variable {F : Option Request → List UInt8 → Prop} {q r s : Record}

theorem refl
    (r : Record) :
    DrawnFrom F r r :=
  ⟨.inl rfl, .inl rfl, .inl rfl, .inl rfl⟩

theorem trans
    (h : DrawnFrom F q r)
    (k : DrawnFrom F r s) :
    DrawnFrom F q s where
  serialNumber := k.serialNumber.elim (fun hsame => hsame ▸ h.serialNumber) .inr
  creditAction := k.creditAction.elim (fun hsame => hsame ▸ h.creditAction) .inr
  model := k.model.elim (fun hsame => hsame ▸ h.model) .inr
  firmware := k.firmware.elim (fun hsame => hsame ▸ h.firmware) .inr

/-- What a frame in answer to a normal command says is drawn from it. -/
theorem updated
    (c : Codec)
    {x : List UInt8}
    (hx : F none x)
    (r : Record) :
    DrawnFrom F r (r.updated (Reply.decode c x)) :=
  ⟨.inl rfl, .inr ⟨x, hx, Reply.decode_creditAction c x⟩, .inr ⟨x, hx, rfl⟩, .inr ⟨x, hx, rfl⟩⟩

/-- A serial number is drawn from the frame that answers the query for it. -/
theorem identified
    {unsigned : Bool}
    {x : List UInt8}
    {text : String}
    (hx : F (some .identity) x)
    (htext : SerialNumber.ofBytes unsigned (Frame.serialPart x) = .ok text)
    (r : Record) :
    DrawnFrom F r { r with serialNumber := some text } :=
  ⟨.inr ⟨x, unsigned, text, hx, htext, rfl⟩, .inl rfl, .inl rfl, .inl rfl⟩

end Record.DrawnFrom

variable {σ : Type}

/-- What is written down and told comes from frames that were read for what it is, or is told by
listeners themselves. -/
structure World.Matches (own : Event → Bool) (F : Option Request → List UInt8 → Prop)
    (w : World (AnsweredLine σ) Audience) (t : Trace) (v : World (AnsweredLine σ) Audience) :
    Prop where
  drawn : Record.DrawnFrom F w.courier.record v.courier.record
  told : ∀ l e, .heard l e ∈ t → e.Licensed own (F none)

/-- Along a run the party answers, and if frames are of some kind that are read for a request then
only such frames are drawn from. -/
def Passage.matching
    (peer : Peer σ)
    (own : Event → Bool)
    (F : Option Request → List UInt8 → Prop) :
    Passage (World (AnsweredLine σ) Audience) where
  holds w t v := t.party peer w.port.party = v.port.party
    ∧ ((∀ request x, Act.FrameFor (t.calls peer w.port.party) request x → F request x) →
      World.Matches own F w t v)
  stay w := ⟨rfl, fun _ => ⟨.refl _, fun _ _ h => by cases h⟩⟩
  onward := by
    rintro w t v u z ⟨hparty, h⟩ ⟨kparty, k⟩
    rw [Trace.party_append, Trace.calls_append, hparty]
    refine ⟨kparty, fun hframes => ?_⟩
    have hfirst := h fun request x hx => hframes request x (hx.append_left _)
    have hsecond := k fun request x hx => hframes request x (hx.append_right _)
    refine ⟨hfirst.drawn.trans hsecond.drawn, fun l e he => ?_⟩
    exact (List.mem_append.mp he).elim (hfirst.told l e) (hsecond.told l e)

/-- Frames are matched amid listeners that tell only own news. -/
abbrev Passage.matched
    (peer : Peer σ)
    (own : Event → Bool)
    (F : Option Request → List UInt8 → Prop) :
    Passage (World (AnsweredLine σ) Audience) :=
  (matching peer own F).amid (fun _ => True) (Reaction.minds own none)

/-- A run begins as its first part does. -/
theorem Run.exists_trace_bind
    {S α β : Type}
    (x : Run S α)
    (f : α → Run S β)
    (s : S) :
    ∃ t, ((x >>= f) s).trace = (x s).trace ++ t := by
  cases h : (x s).result with
  | ok a =>
      exact ⟨_, congrArg Report.trace (bind_of_ok h)⟩
  | error e =>
      exact ⟨[], by rw [bind_of_error h, List.append_nil]⟩

namespace World

variable {peer : Peer σ} {own : Event → Bool}
  {F : Option Request → List UInt8 → Prop}

theorem matching_unaudited :
    (Passage.matching peer own F).Unaudited := fun _ _ =>
  ⟨rfl, fun _ => ⟨.refl _, fun _ _ h => by cases h⟩⟩

/-- An entry may be left if it is no call and tells nothing. -/
theorem matched_emit
    {e : Entry}
    (hcall : e.isCall = false)
    (hheard : ∀ l event, e ≠ .heard l event) :
    Run.Follows (.matched peer own F) (Run.emit e) := by
  have hparty (s : σ) : Trace.party peer [e] s = s := by
    cases e with
    | port c =>
        cases hcall
    | _ =>
        rfl
  refine fun w hw => ⟨⟨hparty _, fun _ => ⟨.refl _, fun l event htold => ?_⟩⟩, hw⟩
  exact absurd (List.mem_singleton.mp htold).symm (hheard l event)

theorem matched_inert
    {e : Entry}
    (he : e.isInert = true) :
    Run.Follows (.matched peer own F) (Run.emit e) := by
  refine matched_emit (Entry.isCall_of_isInert he) ?_
  rintro l event rfl
  cases he

theorem matched_heard
    {who : String}
    {e : Event}
    (he : e.Licensed own (F none)) :
    Run.Follows (.matched peer own F) (Run.emit (.heard who e)) := by
  refine fun w hw => ⟨⟨rfl, fun _ => ⟨.refl _, fun l event hheard => ?_⟩⟩, hw⟩
  cases List.mem_singleton.mp hheard
  exact he

theorem matched_change
    {f : Courier → Courier}
    (hf : ∀ c, Record.DrawnFrom F c.record (f c).record) :
    Run.Follows (.matched peer own F) (change f) := fun w hw =>
  ⟨⟨rfl, fun _ => ⟨hf w.courier, fun _ _ h => by cases h⟩⟩, hw⟩

/-- A change that leaves the record draws from no frame. -/
theorem matched_aside
    {f : Courier → Courier}
    (hf : ∀ c, (f c).record = c.record) :
    Run.Follows (.matched peer own F) (change f) :=
  matched_change fun c => (hf c).symm ▸ .refl _

/-- A call on the port by itself draws from no frame. -/
theorem matched_asks
    {α : Type}
    {c : PortCall}
    {x : Run (World (AnsweredLine σ) Audience) α}
    (hx : Asks peer c x) :
    Run.Follows (.matched peer own F) x := by
  refine fun w hw => ⟨⟨?_, fun _ => ⟨?_, fun l e he => ?_⟩⟩, ?_⟩
  · rw [hx.trace_eq, hx.party_eq]
    rfl
  · rw [hx.courier_eq]
    exact .refl _
  · rw [hx.trace_eq] at he
    cases List.mem_singleton.mp he
  · exact hw.of_eq (hx.courier_eq w) (hx.audience_eq w)

/-! ## Ticks -/

section Ticks

variable (name : Value) {deliver : Deliver (AnsweredLine σ) Audience}

/-- A command that goes out is the last thing that happens until then. -/
theorem inquire_sends
    {request : Option Request}
    {w : World (AnsweredLine σ) Audience}
    (h : ((command (Courier.commandFor request) >>=
      transmit (answeredPort name peer) deliver) w).result = .ok ()) :
    ∃ t, ((command (Courier.commandFor request) >>=
      transmit (answeredPort name peer) deliver) w).trace =
        t ++ [.port (.send (w.courier.commandFor request))] := by
  let bytes := w.courier.commandFor request
  let v : World (AnsweredLine σ) Audience :=
    { w with courier := { w.courier with codec := w.courier.codec.turned } }
  have hmade : (command (Courier.commandFor request) w).result = .ok bytes := rfl
  have hwhole : (command (Courier.commandFor request) >>=
      transmit (answeredPort name peer) deliver) w =
        transmit (answeredPort name peer) deliver bytes v := Run.bind_of_ok hmade
  rw [hwhole] at h ⊢
  obtain ⟨u, hfire, -⟩ := Run.ok_of_bind h
  refine ⟨(fire deliver (.traffic .sent (HexText.spaced bytes)) v).trace, ?_⟩
  have htransmit : transmit (answeredPort name peer) deliver bytes v = _ :=
    Run.bind_of_ok (f := fun _ => onPort ((answeredPort name peer).send bytes)) hfire
  rw [htransmit, (asks_send name peer bytes).trace_eq]

/-- A frame that is collected is what the first call has read. -/
theorem collect_receives
    {x : List UInt8}
    {w : World (AnsweredLine σ) Audience}
    (hx : Frame.accepts x = true)
    (h : (collect (answeredPort name peer) deliver w).result = .ok x) :
    ∃ n timeout t, (collect (answeredPort name peer) deliver w).trace =
        .port (.receive n timeout) :: t
      ∧ (peer (.receive n timeout) w.port.party).1 = .bytes x := by
  let timeout := w.courier.policy.timeout
  let receiving : Run (World (AnsweredLine σ) Audience) (Option (List UInt8)) :=
    onPort ((answeredPort name peer).receive Frame.replySize timeout)
  have hending : (receiving w).result =
      (peer (.receive Frame.replySize timeout) w.port.party).1.ending := rfl
  obtain ⟨t, htrace⟩ : ∃ t, (collect (answeredPort name peer) deliver w).trace =
      (receiving w).trace ++ t := Run.exists_trace_bind receiving _ w
  refine ⟨Frame.replySize, timeout, t, ?_, ?_⟩
  · rw [htrace, (asks_receive name peer Frame.replySize timeout).trace_eq]
    rfl
  obtain ⟨got, hgot, hrest⟩ : ∃ got, (receiving w).result = .ok got ∧ _ := Run.ok_of_bind h
  rw [hending] at hgot
  cases got with
  | none =>
      cases hrest
  | some y =>
      obtain ⟨u, -, hrest⟩ := Run.ok_of_bind hrest
      by_cases hy : Frame.accepts y = true
      · rw [if_pos hy] at hrest
        cases hrest
        cases ha : (peer (.receive Frame.replySize timeout) w.port.party).1 with
        | bytes z =>
            rw [ha] at hgot
            cases hgot
            rfl
        | _ =>
            rw [ha] at hgot
            cases hgot
      · rw [if_neg hy] at hrest
        obtain ⟨u, -, hrest⟩ := Run.ok_of_bind hrest
        obtain ⟨u, -, hrest⟩ := Run.ok_of_bind hrest
        cases hrest
        cases hx

omit name in
/-- What is read right after a command was sent is read in its exchange. -/
theorem frameFor_of_traces
    {c : Courier}
    {request : Option Request}
    {x : List UInt8}
    {n : Int}
    {timeout : Value}
    {s : σ}
    (t u : Trace)
    (hx : Frame.accepts x = true)
    (hread : (peer (.receive n timeout)
      (Trace.party peer (t ++ [.port (.send (c.commandFor request))]) s)).1 = .bytes x) :
    Act.FrameFor
      (Trace.calls peer
        ((t ++ [.port (.send (c.commandFor request))]) ++ .port (.receive n timeout) :: u) s)
      request x := by
  refine ⟨hx, c, (peer (.send (c.commandFor request)) (t.party peer s)).1, n, timeout, ?_⟩
  rw [Trace.calls_append, Trace.calls_append]
  have hreceived (r : σ) (hr : (peer (.receive n timeout) r).1 = .bytes x) :
      Trace.calls peer (.port (.receive n timeout) :: u) r =
        (.receive n timeout, .bytes x) :: u.calls peer (peer (.receive n timeout) r).2 := by
    rw [← hr]
    rfl
  rw [hreceived _ hread]
  exact ⟨t.calls peer s, _, by simp only [List.append_assoc]; rfl⟩

variable (hdeliver : Hearkens (.matched peer own) deliver)
include hdeliver

omit name in
theorem matched_fire
    {e : Event}
    (he : e.Licensed own (F none)) :
    Run.Follows (.matched peer own F) (fire deliver e) :=
  hdeliver.fire (fun _ => matched_heard he) fun _ => matched_inert rfl

/-- All that a tick does besides its command and what it makes of a reply may happen. -/
theorem matched_routine :
    (Passage.matched peer own F).Routine (answeredPort name peer) deliver where
  log _ _ _ := matched_inert
  slept _ := matched_inert rfl
  mailbox _ := matched_aside fun _ => rfl
  accounted _ := matched_change fun _ => ⟨.inl rfl, .inl rfl, .inl rfl, .inl rfl⟩
  connect := matched_asks (asks_connect name peer)
  disconnect := matched_asks (asks_disconnect name peer)
  discard := matched_asks (asks_discard name peer)
  receive n timeout := matched_asks (asks_receive name peer n timeout)
  traffic _ _ := matched_fire hdeliver fun h => by cases h
  alarm _ := matched_fire hdeliver fun h => by cases h

/-- A command is made, shown and sent without drawing from a frame. -/
theorem matched_inquire
    (request : Option Request) :
    Run.Follows (.matched peer own F)
      (command (Courier.commandFor request) >>= transmit (answeredPort name peer) deliver) := by
  have hturned : Run.Follows (.matched peer own F)
      (change fun c => { c with codec := c.codec.turned }) := matched_aside fun _ => rfl
  have hcommand : Run.Follows (.matched peer own F)
      (command (Courier.commandFor request) : Run (World (AnsweredLine σ) Audience) _) :=
    (Run.Follows.look _).bind fun _ => hturned.bind fun _ => Run.Follows.give _
  exact hcommand.bind fun bytes =>
    ((matched_routine name hdeliver).traffic _ _).bind fun _ =>
      matched_asks (asks_send name peer bytes)

/-- An exchange may happen if what is made of its reply may for none and for a frame that is read
for the request. -/
theorem matched_exchange
    (request : Option Request)
    {use : List UInt8 → Run (World (AnsweredLine σ) Audience) Unit}
    (hnone : Run.Follows (.matched peer own F) (use []))
    (huse : ∀ G x, G request x → Frame.accepts x = true →
      Run.Follows (.matched peer own G) (use x)) :
    Run.Follows (.matched peer own F)
      (command (Courier.commandFor request) >>= fun bytes =>
        transmit (answeredPort name peer) deliver bytes >>= fun _ =>
          collect (answeredPort name peer) deliver >>= use) := by
  let inquire := command (Courier.commandFor request) >>=
    transmit (answeredPort name peer) deliver
  let collecting := collect (answeredPort name peer) deliver
  suffices hwhole : Run.Follows (.matched peer own F) (inquire >>= fun _ => collecting >>= use) by
    rwa [Run.bind_assoc] at hwhole
  have hinquire {G : Option Request → List UInt8 → Prop} :
      Run.Follows (.matched peer own G) inquire := matched_inquire name hdeliver request
  have hcollect {G : Option Request → List UInt8 → Prop} :
      Run.Follows (.matched peer own G) collecting := (matched_routine name hdeliver).collect
  intro w hw
  cases hsent : (inquire w).result with
  | error h =>
      rw [Run.bind_of_error hsent]
      exact hinquire w hw
  | ok u =>
      rw [Run.bind_of_ok hsent]
      cases hgot : (collecting (inquire w).state).result with
      | error h =>
          rw [Run.bind_of_error hgot]
          exact (Passage.matched peer own F).onward (hinquire w) (hcollect _) hw
      | ok x =>
          rw [Run.bind_of_ok hgot]
          have hboth {G : Option Request → List UInt8 → Prop}
              (hused : Run.Follows (.matched peer own G) (use x)) :=
            (Passage.matched peer own G).onward (hinquire w)
              ((Passage.matched peer own G).onward (hcollect _) (hused _)) hw
          rcases Verdict.collect_ok name hgot with rfl | hx
          · exact hboth hnone
          · -- Whether the frame may be drawn from depends on the calls; that the party answers
            -- does not, and so it is shown where every frame may be.
            obtain ⟨⟨hparty, -⟩, hafter⟩ :=
              hboth (huse (fun _ _ => True) x trivial hx)
            refine ⟨⟨hparty, fun hframes => ?_⟩, hafter⟩
            obtain ⟨t, hcommand⟩ := inquire_sends name hsent
            obtain ⟨n, timeout, v, hreceived, hread⟩ := collect_receives name hx hgot
            have hbefore : (inquire w).trace.party peer w.port.party =
                (inquire w).state.port.party := (hinquire (G := F) w hw).1.1
            have hkind : F request x := by
              refine hframes request x ?_
              change Act.FrameFor (Trace.calls peer ((inquire w).trace ++ (_ ++ _)) _) _ _
              rw [show (inquire w).trace = _ from hcommand,
                show (collecting (inquire w).state).trace = _ from hreceived, List.cons_append]
              refine frameFor_of_traces t _ hx ?_
              rw [← hcommand]
              exact hbefore ▸ hread
            exact (hboth (huse F x hkind hx)).1.2 hframes

omit name in
/-- What a normal poll writes down and tells of a frame is drawn from it. -/
theorem matched_absorb
    {x : List UInt8}
    (hx : F none x)
    (haccepts : Frame.accepts x = true) :
    Run.Follows (.matched peer own F) (absorb deliver x) := by
  intro w
  rw [absorb_of_frame deliver haccepts w]
  have hwritten : Run.Follows (.matched peer own F)
      (record fun r => r.updated (Reply.decode w.courier.codec x)) :=
    matched_change fun c => .updated w.courier.codec hx c.record
  refine (Passage.matched peer own F).onward (t := []) (hwritten w)
    (hdeliver.fireAll (fun e he _ => matched_heard ?_) (fun _ _ _ => matched_inert rfl) _)
  exact fun _ => .inr ⟨x, hx, w.courier.codec, he⟩

omit name hdeliver in
/-- What a query for the serial number writes down of a frame is drawn from it, and of a reply that
is too short it draws nothing. -/
theorem matched_identify
    {x : List UInt8}
    (hx : World.serialNumberOffset + SerialNumber.size ≤ x.length → F (some .identity) x) :
    Run.Follows (.matched peer own F) (identify x) := by
  unfold identify
  by_cases hlength : x.length < World.serialNumberOffset + SerialNumber.size
  · rw [if_pos hlength]
    exact matched_emit rfl fun _ _ h => by cases h
  · rw [if_neg hlength]
    have hframe := hx (Nat.le_of_not_lt hlength)
    refine (Run.Follows.look _).bind fun unsigned => Run.Follows.ofExcept_bind fun text htext => ?_
    have hwritten : Run.Follows (.matched peer own F)
        (record fun r => { r with serialNumber := some text }) :=
      matched_change fun c => .identified hframe htext c.record
    exact hwritten.bind fun _ => matched_inert (Entry.isInert_fields _ _)

/-- Whatever a request asks for, frames are matched. -/
theorem matched_serve
    (request : Option Request) :
    Run.Follows (.matched peer own F) (serve (answeredPort name peer) deliver request) := by
  have hshort : ¬ World.serialNumberOffset + SerialNumber.size ≤ [].length (α := UInt8) := by
    decide
  match request with
  | none =>
      exact matched_exchange name hdeliver none (Run.Follows.give ()) fun G x hx haccepts =>
        matched_absorb hdeliver hx haccepts
  | some .identity =>
      exact (matched_inert rfl).bind fun _ =>
        matched_exchange name hdeliver (some .identity) (matched_identify fun h => absurd h hshort)
          fun G x hx _ => matched_identify fun _ => hx
  | some .reset =>
      exact (matched_routine name hdeliver).resetAcceptor
        (matched_inquire name hdeliver (some .reset))

end Ticks

/-! ## Operations -/

section Operations

variable (name : Value)

/-- Frames are matched in an operation that tells only own news. -/
theorem matched_perform
    {deliver : Deliver (AnsweredLine σ) Audience}
    (hdeliver : Hearkens (.matched peer own) deliver)
    {op : Operation}
    (hop : (Reaction.performs op).minds own none = true) :
    Run.Follows (.matched peer own F) (perform (answeredPort name peer) deliver op) := by
  have hconcludes : (Passage.matched peer own F).Concludes (answeredPort name peer) :=
    Passage.concludes_of_emit (fun _ => matched_inert) (fun _ => matched_aside fun _ => rfl)
      (matched_asks (asks_disconnect name peer))
  refine hconcludes.perform (fun _ _ => matched_aside fun _ => rfl) ?_ fun _ =>
    (matched_routine name hdeliver).tick (matched_serve name hdeliver)
  rintro e rfl
  exact matched_fire hdeliver fun _ => .inl hop

/-- However deep the calls of listeners are nested, frames are matched. -/
theorem matched_performNested
    (depth : Nat)
    (F : Option Request → List UInt8 → Prop)
    (op : Operation)
    (hop : (Reaction.performs op).minds own none = true) :
    Run.Follows (.matched peer own F) (performNested (answeredPort name peer) depth op) :=
  follows_performNested_of_hearkens (fun _ => matching_unaudited) (fun _ _ _ => matched_inert rfl)
    (fun hdeliver _ _ hop => matched_perform name hdeliver hop) depth F op hop

end Operations

end World

/-! ## What becomes of a frame -/

namespace Vantage

variable {τ : Type} {V : Vantage σ τ} {d e : Desk σ} {acts : List Act}

/-- After a frame was read, the exchange learns and tells what the frame says, and only traffic is
told before. -/
def Takes (V : Vantage σ τ) (d : Desk σ) (request : Option Request) (x : List UInt8)
    (acts : List Act) (e : Desk σ) : Prop :=
  ∃ (front : List Act) (k : Desk σ), acts = front ++ (k.news x request).flatMap V.tell
    ∧ Act.TellTraffic front ∧ k.record = d.record ∧ k.standing = d.standing
    ∧ e = k.learned x request

theorem Service.takes
    {request : Option Request}
    {result : Except Halt Unit}
    {x : List UInt8}
    (h : V.Service d request acts result e)
    (hx : x ∈ Act.frames acts) :
    result = .ok () ∧ V.Takes d request x acts e := by
  cases h with
  | failed h hrequest hask =>
      rw [hask.frames_eq] at hx
      cases hx
  | dropped hrequest hask =>
      rw [hask.frames_eq] at hx
      cases hx
  | @answered request acts k y hrequest hy hask =>
      have hframes : Act.frames (acts ++ (k.news y request).flatMap V.tell) = [y] := by
        rw [Act.frames, Act.replies_append, replies_flatMap_tell, List.append_nil,
          hask.replies_of_accepts hy, List.filter_cons_of_pos hy, List.filter_nil]
      rw [hframes, List.mem_singleton] at hx
      subst hx
      exact ⟨rfl, acts, k, rfl, hask.tellTraffic, hask.record_eq,
        hask.standing_eq.trans d.standing_turned, rfl⟩
  | resetUnsent bytes h hbytes ha =>
      simp [Act.frames, Act.replies_called] at hx
  | resetUnclosed bytes a h hbytes ha hok hb =>
      simp [Act.frames, Act.replies_called] at hx
  | resetRested bytes a b c k hbytes ha hok hb hokb he hc =>
      have hrest : Act.replies [.slept World.resetRest, .called .connect c] = [] :=
        Act.replies_called (c := .connect) (by simp) c []
      simp [Act.frames, Act.replies_called, hrest] at hx

theorem Opened.takes
    {request : Option Request}
    {result : Except Halt Unit}
    {x : List UInt8}
    (h : V.Opened d request acts result e)
    (hx : x ∈ Act.frames acts) :
    result = .ok () ∧ V.Takes d request x acts e := by
  cases h with
  | ready hopen hserve =>
      exact hserve.takes hx
  | refused h hopen ha =>
      cases hx
  | opened a hopen ha hok hserve =>
      obtain ⟨hresult, front, k, hacts, htraffic, hrecord, hstanding, he⟩ := hserve.takes hx
      refine ⟨hresult, .called .connect a :: front, k, ?_, htraffic, hrecord, hstanding, he⟩
      rw [hacts]
      rfl

/-- A tick that reads a frame is completed, and learns and tells what the frame says. -/
theorem Course.takes
    {request : Option Request}
    {result : Except Halt Unit}
    {x : List UInt8}
    (h : V.Course d request acts result e)
    (hx : x ∈ Act.frames acts) :
    ∃ k : Desk σ, e = k.accounted true ∧ V.Takes d request x acts k := by
  have hnone (k : Desk σ) : Act.frames (V.alarmActs k) = [] := by simp [Act.frames]
  have hclosed (a : Answer) (rest : List Act) :
      Act.frames (.called .disconnect a :: rest) = Act.frames rest := by
    rw [Act.frames, Act.replies_called (by simp)]
    rfl
  cases h with
  | completed hserve =>
      exact ⟨_, rfl, (hserve.takes hx).2⟩
  | missed f hup hserve =>
      rw [Act.frames_append, hnone, List.append_nil] at hx
      cases (hserve.takes hx).1
  | severed text a hserve ha hok =>
      rw [Act.frames_append, hclosed, hnone, List.append_nil] at hx
      cases (hserve.takes hx).1
  | escaped text h hserve ha =>
      rw [Act.frames_append, hclosed] at hx
      rw [show Act.frames [] = [] from rfl, List.append_nil] at hx
      cases (hserve.takes hx).1
  | exited status hserve =>
      cases (hserve.takes hx).1

end Vantage

theorem Reply.decode_congr
    {c d : Codec}
    (h : c.billNames = d.billNames)
    (x : List UInt8) :
    decode c x = decode d x := by
  have hname : nameOf c = nameOf d := by
    funext index
    rw [nameOf, nameOf, h]
  simp only [decode, hname]

theorem Reply.dataByte_encode
    (kind : UInt8)
    (payload : List UInt8)
    (i : Nat) :
    dataByte (Frame.encode kind payload) i = payload.getD i 0 := by
  rw [dataByte, Frame.payloadPart_encode]

theorem Frame.serialPart_encode
    (kind : UInt8)
    {payload : List UInt8}
    (hlong : SerialNumber.size ≤ payload.length) :
    serialPart (encode kind payload) = payload.take SerialNumber.size := by
  unfold serialPart
  change (payload ++ [endByte, checksum (body kind payload)]).take SerialNumber.size = _
  exact List.take_append_of_le_length hlong

theorem World.isNews_eventOf
    (p : Reply)
    (kind : DeviceEvent) :
    (eventOf p kind).isNews = true := by
  cases kind <;> rfl

/-- What a frame gives to tell depends on the names of the bills alone. -/
theorem Desk.news_congr
    {d e : Desk σ}
    (hnames : d.codec.billNames = e.codec.billNames)
    (x : List UInt8)
    (request : Option Request) :
    d.news x request = e.news x request := by
  cases request with
  | none =>
      unfold news
      rw [Reply.decode_congr hnames x]
  | some r =>
      rfl

theorem Desk.isNews_of_mem_news
    {d : Desk σ}
    {x : List UInt8}
    {request : Option Request}
    {y : Event}
    (h : y ∈ d.news x request) :
    y.isNews = true := by
  cases request with
  | none =>
      obtain ⟨kind, -, rfl⟩ := List.mem_map.mp h
      exact World.isNews_eventOf _ kind
  | some r =>
      cases h

/-- Traffic apart, what is told after a frame is what the frame gives to tell. -/
theorem Vantage.Takes.filter_isNews
    {τ : Type}
    {V : Vantage σ τ}
    {n : String}
    {d e : Desk σ}
    {request : Option Request}
    {x : List UInt8}
    {acts : List Act}
    (hwatch : V.watch = some n)
    (h : V.Takes d request x acts e) :
    (Act.events acts).filter Event.isNews = d.news x request := by
  obtain ⟨front, k, rfl, htraffic, -, hstanding, -⟩ := h
  have hfront : (Act.events front).filter Event.isNews = [] := by
    rw [List.filter_eq_nil_iff]
    intro y hy hnews
    have hkind := List.all_eq_true.mp htraffic y hy
    cases y with
    | traffic direction text =>
        cases hnews
    | _ =>
        cases hkind
  have hnews : k.news x request = d.news x request :=
    Desk.news_congr (congrArg Standing.billNames hstanding) x request
  have hall : ∀ y ∈ d.news x request, y.isNews = true := fun _ => Desk.isNews_of_mem_news
  rw [Act.events_append, List.filter_append, hfront, events_flatMap_tell hwatch, hnews,
    List.nil_append, List.filter_eq_self.mpr hall]

namespace World

variable {peer : Peer σ} {own : Event → Bool} {who : Option Listener}

/-- A tick that reads a frame takes it for the reply to its command, whatever its type is. -/
theorem tick_takes_frame
    (name : Value)
    {w : World (AnsweredLine σ) Audience}
    {x : List UInt8}
    (hplans : w.audience.Plans (Reaction.isPatient own who))
    (hwho : ∀ l, who = some l → w.courier.listeners.Attends l)
    (hx : Frame.accepts x = true)
    (hread : x ∈ (tickAmong (answeredPort name peer) w).trace.replies peer w.port.party) :
    let r := tickAmong (answeredPort name peer) w
    let request := w.courier.control.mailbox.take.1
    let after := r.state.courier.record
    (request = none →
      after.creditAction = Reply.decision x ∧ after.model = some (Reply.dataByte x 3)
        ∧ after.firmware = some (Reply.dataByte x 4)
        ∧ ∀ l, who = some l → ((r.trace.heardBy l.name).filter fun e => !own e && e.isNews) =
          (w.desk.news x none).filter fun e => !own e)
      ∧ (request = some .identity →
        after.serialNumber = (Frame.serialText? w.courier.policy.unsignedSerial x).or
          w.courier.record.serialNumber) := by
  intro r request after
  obtain ⟨answers, acts, e, hcourse, -, hrecord, -, hshows, -⟩ :=
    exists_course_tick name (placid_hear name w.audience.depth) ⟨hwho, hplans⟩
  have hframe : x ∈ Act.frames acts := by
    rw [show r.trace.replies peer w.port.party = Act.replies acts from replies_of_shows hshows]
      at hread
    exact List.mem_filter.mpr ⟨hread, hx⟩
  obtain ⟨k, rfl, htakes⟩ := hcourse.takes hframe
  obtain ⟨front, d, -, -, hsame, hstanding, rfl⟩ := id htakes
  have hafter : after = ((d.learned x request).accounted true).record := hrecord
  refine ⟨fun hnone => ?_, fun hidentity => ?_⟩
  · rw [hafter, hnone]
    refine ⟨Reply.decode_creditAction d.codec x, rfl, rfl, fun l hl => ?_⟩
    have hheard := htakes.filter_isNews (V := Vantage.echo) (n := "") rfl
    have htold : (r.trace.heardBy l.name).filter (fun e => !own e) =
        (Act.events acts).filter fun e => !own e := hshows.heardBy_eq l hl
    calc
      (r.trace.heardBy l.name).filter (fun e => !own e && e.isNews) =
          ((r.trace.heardBy l.name).filter fun e => !own e).filter Event.isNews := by
        rw [List.filter_filter]
        simp only [Bool.and_comm]
      _ = ((Act.events acts).filter Event.isNews).filter fun e => !own e := by
        rw [htold, List.filter_filter, List.filter_filter]
        simp only [Bool.and_comm]
      _ = (w.desk.news x none).filter fun e => !own e := by
        rw [hheard]
        change ((Desk.news _ x request).filter _) = _
        rw [hnone]
        rfl
  · rw [hafter, hidentity]
    have hpolicy : d.policy = w.courier.policy := congrArg Standing.policy hstanding
    have hlearned := congrArg Identity.serialNumber
      (Vantage.identity_learned d x (some .identity))
    rw [hpolicy, hsame] at hlearned
    exact hlearned

/--
In a row of operations, whatever the port does and however listeners act: what becomes known
and what listeners are told of the acceptor comes from frames that were read next after a
command of its kind, the serial number after a query for it, the model, the firmware, the
credit action and the events after a normal command, and a command is of one kind only.  The
type of a frame is not looked at: in a tick among patient listeners a frame of any type, read
after a normal command, decides on all that it is taken for and is told of, and one read after
a query for the serial number gives that number if it is long enough.
-/
theorem replies_matched_by_exchange
    (peer : Peer σ)
    (name : Value)
    {ops : List Operation}
    {w : World (AnsweredLine σ) Audience}
    (hplans : w.audience.Plans (Reaction.minds own none))
    (hops : ∀ op ∈ ops, (Reaction.performs op).minds own none = true) :
    let port := answeredPort name peer
    let t := chronicle port ops w
    Matches own (Act.FrameFor (t.calls peer w.port.party)) w t (reached port ops w)
      ∧ (∀ (c d : Courier) request other, c.commandFor request = d.commandFor other →
        request = other)
      ∧ ∀ (v : World (AnsweredLine σ) Audience) who kind payload,
        v.audience.Plans (Reaction.isPatient own who) →
        (∀ l, who = some l → v.courier.listeners.Attends l) →
        payload.length ≤ Frame.maxPayload →
        let x := Frame.encode kind payload
        let r := tickAmong port v
        let request := v.courier.control.mailbox.take.1
        let after := r.state.courier.record
        x ∈ r.trace.replies peer v.port.party →
          (request = none →
            after.creditAction = (if payload.getD 0 0 &&& 0x04 != 0 then .accept else .none)
              ∧ after.model = some (payload.getD 3 0)
              ∧ after.firmware = some (payload.getD 4 0)
              ∧ ∀ l, who = some l →
                ((r.trace.heardBy l.name).filter fun e => !own e && e.isNews) =
                  (v.desk.news x none).filter fun e => !own e)
            ∧ (request = some .identity → 5 ≤ payload.length → ∃ text,
              SerialNumber.ofBytes v.courier.policy.unsignedSerial (payload.take 5) = .ok text
                ∧ after.serialNumber = some text) := by
  intro port t
  have hsteps : ∀ op ∈ ops,
      Run.Follows (.matched peer own (Act.FrameFor (t.calls peer w.port.party)))
        (step port op) :=
    fun op hop u => matched_performNested name _ _ op (hops op hop) u
  obtain ⟨⟨-, hmatches⟩, -⟩ := holds_chronicle hsteps w ⟨trivial, hplans⟩
  refine ⟨hmatches fun _ _ => id, fun _ _ _ _ => Courier.request_of_commandFor_eq, ?_⟩
  intro v who kind payload hpatient hwho hpayload x r request after hread
  have hx : Frame.accepts x = true :=
    (Frame.accepts_iff_encode x).mpr ⟨kind, payload, hpayload, rfl⟩
  obtain ⟨hnormal, hidentity⟩ := tick_takes_frame name hpatient hwho hx hread
  refine ⟨fun hnone => ?_, fun hasked hlong => ?_⟩
  · obtain ⟨haction, hmodel, hfirmware, htold⟩ := hnormal hnone
    rw [Reply.decision, Reply.dataByte_encode] at haction
    rw [Reply.dataByte_encode] at hmodel hfirmware
    exact ⟨haction, hmodel, hfirmware, htold⟩
  · have hpart : Frame.serialPart x = payload.take 5 := Frame.serialPart_encode kind hlong
    have hsize : (payload.take 5).length = SerialNumber.size := List.length_take_of_le hlong
    obtain ⟨text, htext⟩ :=
      SerialNumber.ofBytes_of_length_eq v.courier.policy.unsignedSerial hsize
    refine ⟨text, htext, (hidentity hasked).trans ?_⟩
    rw [Frame.serialText?, hpart, htext]
    rfl

/-- What a normal reply says. -/
def latePayload : List UInt8 := [0x01, 0x10, 0x00, 0x4A, 0x0B, 0x00]

/-- A reply comes too late for a poll and in time for the query for the serial number after it. -/
def lateOutcomes : List (Except Fault (List UInt8)) :=
  [.ok [], .ok [], .error (.noReply "late"), .ok [],
    .ok (Frame.encode Frame.replyType latePayload)]

/-- What the late reply says is taken for the serial number, for it was read in the exchange of the
query. -/
theorem replies_matched_by_exchange_late :
    let port := answeredPort .null (.steady Responder.ofOutcomes)
    let w := unused lateOutcomes [⟨⟨"rec", .null⟩, []⟩]
    let v := reached port [.poll, .request .identity] w
    let t := chronicle port [.poll, .request .identity, .poll] w
    (∃ x, Act.FrameFor (t.calls Responder.ofOutcomes w.port.party) (some .identity) x)
      ∧ ∃ text, SerialNumber.ofBytes false (latePayload.take 5) = .ok text
        ∧ (tickAmong port v).state.courier.record.serialNumber = some text := by
  intro port w v t
  have hplans : w.audience.Plans (Reaction.minds (fun _ => false) none) := by decide
  have hpatient : v.audience.Plans (Reaction.isPatient (fun _ => false) none) := by decide +kernel
  have hops : ∀ op ∈ [Operation.poll, .request .identity, .poll],
      (Reaction.performs op).minds (fun _ => false) none = true := by decide
  have hnew : (reached port [.poll, .request .identity, .poll] w).courier.record.serialNumber ≠
      w.courier.record.serialNumber := by decide +kernel
  have hasked : v.courier.control.mailbox.take.1 = some .identity := by decide +kernel
  have hsigned : v.courier.policy.unsignedSerial = false := by decide +kernel
  have hread : Frame.encode Frame.replyType latePayload ∈
      (tickAmong port v).trace.replies Responder.ofOutcomes v.port.party := by decide +kernel
  clear_value v w
  obtain ⟨hmatches, -, htaken⟩ :=
    replies_matched_by_exchange (.steady Responder.ofOutcomes) .null hplans hops
  constructor
  · rcases hmatches.drawn.serialNumber with hsame | ⟨x, unsigned, text, hx, -⟩
    · exact absurd hsame hnew
    · exact ⟨x, hx⟩
  · obtain ⟨-, hidentity⟩ := htaken v none Frame.replyType latePayload hpatient
      (fun _ h => by cases h) (by decide) hread
    rw [hsigned] at hidentity
    exact hidentity hasked (by decide)

/-- The only reply that is read is a normal one, and the serial number is taken from it. -/
theorem late_reply_gives_serial_number :
    let port := answeredPort .null (.steady Responder.ofOutcomes)
    let w := unused lateOutcomes [⟨⟨"rec", .null⟩, []⟩]
    let ops : List Operation := [.poll, .request .identity, .poll]
    let late : List UInt8 :=
      [0x02, 0x0B, 0x20, 0x01, 0x10, 0x00, 0x4A, 0x0B, 0x00, 0x03, 0x7B]
    (chronicle port ops w).replies Responder.ofOutcomes w.port.party = [late]
      ∧ Frame.accepts late = true
      ∧ late[2]?.map (· &&& 0xF0) = some 0x20
      ∧ w.courier.record.serialNumber = none
      ∧ (reached port ops w).courier.record.serialNumber = some "0110004ab" := by
  decide +kernel

end World

end AcceptorHost
