import AcceptorHost.Link.Script
import AcceptorHost.Proofs.ExpectedCommands

/-!
# What to do with a bill in escrow

The record of a courier holds the verdict on the calls so far: a tick reads a reply,
and only a frame in answer to a normal command changes what the next one tells.  So
every normal command tells what the last valid reply to a normal command decided.
-/

namespace AcceptorHost

namespace World

variable {σ τ : Type}

/-- What a normal poll does with its reply. -/
def absorb (deliver : Deliver σ τ) (reply : List UInt8) : Run (World σ τ) Unit :=
  if reply.isEmpty then Run.give ()
  else do
    let packet ← ask fun c => Reply.decode c.codec reply
    record fun r => r.updated packet
    fireAll deliver (packet.events.map (eventOf packet))

theorem pollState_eq
    (port : Port σ)
    (deliver : Deliver σ τ) :
    pollState port deliver =
      command (fun c => c.codec.normalCommand c.record.creditAction) >>= fun bytes =>
        (transmit port deliver bytes >>= fun _ => collect port deliver) >>= absorb deliver := by
  simp only [Run.bind_assoc]
  rfl

/-- A frame is written down first, and then what it says is told. -/
theorem absorb_of_frame
    (deliver : Deliver σ τ)
    {x : List UInt8}
    (hx : Frame.accepts x = true)
    (w : World σ τ) :
    absorb deliver x w =
      let packet := Reply.decode w.courier.codec x
      fireAll deliver (packet.events.map (eventOf packet))
        { w with courier := { w.courier with record := w.courier.record.updated packet } } := by
  have hnonempty : ¬ x.isEmpty = true := by simpa using Frame.ne_nil_of_accepts hx
  unfold absorb
  rw [if_neg hnonempty]
  rfl

end World

namespace Verdict

variable {σ : Type} {peer : Peer σ}

/-! ## Ticks -/

/-- A run from a world leaves listeners tame and the decision in the record alone; its calls
are bound by a verdict, and leave the one that its result tells. -/
structure Binding {α : Type} (peer : Peer σ)
    (x : Run (World (AnsweredLine σ) Audience) α) (w : World (AnsweredLine σ) Audience)
    (v : Verdict) (after : Except Halt α → Verdict) : Prop where
  tame : World.Attended (fun _ => True) Reaction.isTame (x w).state
  party_eq : (x w).trace.party peer w.port.party = (x w).state.port.party
  action_eq : (x w).state.courier.record.creditAction = w.courier.record.creditAction
  binds : Binds v ((x w).trace.calls peer w.port.party) (after (x w).result)

namespace Binding

variable {α β : Type} {x : Run (World (AnsweredLine σ) Audience) α}
  {w : World (AnsweredLine σ) Audience} {v : Verdict}

theorem of_muted
    (hx : Run.Follows (muted peer) x)
    (hw : World.Attended (fun _ => True) Reaction.isTame w) :
    Binding peer x w v fun _ => v := by
  obtain ⟨⟨hparty, hcalls, haction⟩, htame⟩ := hx w hw
  exact ⟨htame, hparty, haction, binds_silent v hcalls⟩

theorem bind
    {f : α → Run (World (AnsweredLine σ) Audience) β}
    {between : Except Halt α → Verdict}
    {after : Except Halt β → Verdict}
    (hx : Binding peer x w v between)
    (hf : ∀ a, (x w).result = .ok a →
      Binding peer (f a) (x w).state (between (.ok a)) after)
    (herror : ∀ h, (x w).result = .error h → between (.error h) = after (.error h)) :
    Binding peer (x >>= f) w v after := by
  cases hr : (x w).result with
  | error h =>
      have hreport := Run.bind_of_error (f := f) hr
      constructor
      · rw [hreport]
        exact hx.tame
      · rw [hreport]
        exact hx.party_eq
      · rw [hreport]
        exact hx.action_eq
      · rw [hreport, ← herror h hr, ← hr]
        exact hx.binds
  | ok a =>
      have hreport := Run.bind_of_ok (f := f) hr
      have hnext := hf a hr
      constructor
      · rw [hreport]
        exact hnext.tame
      · rw [hreport, Trace.party_append, hx.party_eq, hnext.party_eq]
      · rw [hreport]
        exact hnext.action_eq.trans hx.action_eq
      · rw [hreport, Trace.calls_append, hx.party_eq]
        have hfirst := hx.binds
        rw [hr] at hfirst
        exact hfirst.append hnext.binds

/-- A call on the port gives the verdict after it. -/
theorem of_asks
    {c : PortCall}
    (hx : World.Asks peer c x)
    (hw : World.Attended (fun _ => True) Reaction.isTame w)
    (hsuits : v.Suits (c, (peer c w.port.party).1)) :
    Binding peer x w v fun _ => v.next (c, (peer c w.port.party).1) := by
  constructor
  · exact hw.of_eq (hx.courier_eq w) (hx.audience_eq w)
  · rw [hx.trace_eq, hx.party_eq]
    rfl
  · rw [hx.courier_eq]
  · rw [hx.trace_eq]
    exact .call hsuits (.done _)

theorem congr
    {after next : Except Halt α → Verdict}
    (hx : Binding peer x w v after)
    (h : after (x w).result = next (x w).result) :
    Binding peer x w v next :=
  ⟨hx.tame, hx.party_eq, hx.action_eq, h ▸ hx.binds⟩

end Binding

/-- The verdict after a reply was read, or was not. -/
def reading (v : Verdict) : Except Halt (List UInt8) → Verdict
  | .ok x => v.heed x
  | .error _ => v

section Ticks

variable (name : Value) {deliver : Deliver (AnsweredLine σ) Audience}
  (hdeliver : World.Mild (fun _ => True) Reaction.isTame (silent peer) deliver)
include hdeliver

/-- An event that is fired returns. -/
theorem fire_ok
    (e : Event)
    {w : World (AnsweredLine σ) Audience}
    (hw : World.Attended (fun _ => True) Reaction.isTame w) :
    (World.fire deliver e w).result = .ok () :=
  hdeliver.fire_ok (fun _ _ => muted_emit rfl) (fun _ h => h) e hw

theorem binding_transmit
    {bytes : List UInt8}
    {w : World (AnsweredLine σ) Audience}
    {v : Verdict}
    (hw : World.Attended (fun _ => True) Reaction.isTame w)
    (hsuits : v.Suits (.send bytes, .nothing)) :
    Binding peer (World.transmit (answeredPort name peer) deliver bytes) w v
      fun _ => { v with normal := Frame.isNormal bytes } := by
  have hfire := muted_fire hdeliver.follows (.traffic .sent (HexText.spaced bytes))
  have hok := fire_ok hdeliver (.traffic .sent (HexText.spaced bytes)) hw
  refine (Binding.of_muted hfire hw).bind ?_ ?_
  · intro u hu
    exact Binding.of_asks (World.asks_send name peer bytes) (hfire w hw).2 hsuits
  · intro h hr
    rw [hok] at hr
    cases hr

/-- Received bytes are shown, and kept if they form a frame. -/
theorem binding_judge
    {w : World (AnsweredLine σ) Audience}
    {v : Verdict}
    (x : List UInt8)
    (hw : World.Attended (fun _ => True) Reaction.isTame w) :
    Binding peer
      (do
        World.fire deliver (.traffic .received (HexText.spaced x))
        if Frame.accepts x then Run.give x
        else do
          World.onPort (answeredPort name peer).discard
          Run.log Level.debug
            ("Invalid data received, flushed port and ignoring data: " ++ HexText.spaced x)
          Run.give [])
      w (v.heed x) v.reading := by
  have hfire := muted_fire hdeliver.follows (.traffic .received (HexText.spaced x))
  have hok := fire_ok hdeliver (.traffic .received (HexText.spaced x)) hw
  refine (Binding.of_muted hfire hw).bind (fun u hu => ?_) fun h hr => ?_
  · have htame := (hfire w hw).2
    by_cases hx : Frame.accepts x = true
    · rw [if_pos hx]
      exact (Binding.of_muted (Run.Follows.give _) htame).congr rfl
    · have hrejected : Frame.accepts x = false := by simpa using hx
      rw [if_neg hx, heed_of_rejected v hrejected]
      have hdrop := muted_asks (c := .discard) rfl (World.asks_discard name peer)
      refine (Binding.of_muted hdrop htame).bind (fun _ _ => ?_) fun _ _ => rfl
      refine (Binding.of_muted (muted_log _ _) (hdrop _ htame).2).bind (fun _ _ => ?_)
        fun _ _ => rfl
      refine (Binding.of_muted (Run.Follows.give _) (hdrop _ htame).2).congr ?_
      exact (heed_of_rejected v rfl).symm
  · rw [hok] at hr
    cases hr

theorem binding_collect
    {w : World (AnsweredLine σ) Audience}
    (v : Verdict)
    (hw : World.Attended (fun _ => True) Reaction.isTame w) :
    Binding peer (World.collect (answeredPort name peer) deliver) w v v.reading := by
  refine (Binding.of_muted (Run.Follows.look _) hw).bind (fun timeout _ => ?_)
    fun h hr => by cases hr
  have hreceive := Binding.of_asks (v := v)
    (World.asks_receive name peer Frame.replySize timeout) hw trivial
  have hresult :
      (World.onPort ((answeredPort name peer).receive Frame.replySize timeout) w).result =
        (peer (.receive Frame.replySize timeout) w.port.party).1.ending := rfl
  cases ha : (peer (.receive Frame.replySize timeout) w.port.party).1 with
  | halts h =>
      rw [ha] at hreceive hresult
      refine hreceive.bind (fun got hgot => ?_) fun k hk => rfl
      have hnever := hresult.symm.trans hgot
      cases hnever
  | nothing =>
      rw [ha] at hreceive hresult
      refine hreceive.bind (fun got hgot => ?_) fun k hk => rfl
      have hnone := hresult.symm.trans hgot
      cases hnone
      exact (Binding.of_muted (Run.Follows.halt _) hreceive.tame).congr rfl
  | bytes x =>
      rw [ha] at hreceive hresult
      refine hreceive.bind (fun got hgot => ?_) fun k hk => ?_
      · have hsome := hresult.symm.trans hgot
        cases hsome
        exact binding_judge name hdeliver x hreceive.tame
      · have hnever := hresult.symm.trans hk
        cases hnever

omit hdeliver in
theorem collect_ok
    {x : List UInt8}
    {w : World (AnsweredLine σ) Audience}
    (h : (World.collect (answeredPort name peer) deliver w).result = .ok x) :
    x = [] ∨ Frame.accepts x = true := by
  obtain ⟨timeout, -, h⟩ := Run.ok_of_bind h
  obtain ⟨got, -, h⟩ := Run.ok_of_bind h
  cases got with
  | none =>
      cases h
  | some y =>
      obtain ⟨u, -, h⟩ := Run.ok_of_bind h
      by_cases hy : Frame.accepts y = true
      · rw [if_pos hy] at h
        cases h
        exact Or.inr hy
      · rw [if_neg hy] at h
        obtain ⟨u, -, h⟩ := Run.ok_of_bind h
        obtain ⟨u, -, h⟩ := Run.ok_of_bind h
        cases h
        exact Or.inl rfl

/-- A command and its reply. -/
theorem binding_inquiry
    {bytes : List UInt8}
    {w : World (AnsweredLine σ) Audience}
    {v : Verdict}
    (hw : World.Attended (fun _ => True) Reaction.isTame w)
    (hsuits : v.Suits (.send bytes, .nothing)) :
    Binding peer
      (World.transmit (answeredPort name peer) deliver bytes >>= fun _ =>
        World.collect (answeredPort name peer) deliver)
      w v (reading { v with normal := Frame.isNormal bytes }) := by
  have hsend := binding_transmit name hdeliver hw hsuits
  exact hsend.bind (fun _ _ => binding_collect name hdeliver _ hsend.tame) fun _ _ => rfl

omit hdeliver in
/-- The normal command tells what the record says. -/
theorem suits_normalCommand
    (c : Codec)
    (v : Verdict)
    (a : Answer) :
    v.Suits (.send (c.normalCommand v.action), a) := fun _ => rfl

omit hdeliver in
theorem isNormal_normalCommand
    (c : Codec)
    (action : CreditAction) :
    Frame.isNormal (c.normalCommand action) = true := by
  cases h : c.ack <;>
    simp [Frame.isNormal, Codec.normalCommand, Codec.stamped, Codec.ackBit, Frame.encode,
      Frame.body, Frame.hostType, h] <;> decide

omit hdeliver in
theorem isNormal_auxiliary
    (c : Codec)
    (payload : List UInt8) :
    Frame.isNormal (c.stamped Frame.auxiliaryType payload) = false := by
  cases h : c.ack <;>
    simp [Frame.isNormal, Codec.stamped, Codec.ackBit, Frame.encode, Frame.body,
      Frame.auxiliaryType, Frame.hostType, h] <;> decide

omit hdeliver in
/-- A command of another type suits every verdict. -/
theorem suits_auxiliary
    (c : Codec)
    (payload : List UInt8)
    (v : Verdict)
    (a : Answer) :
    v.Suits (.send (c.stamped Frame.auxiliaryType payload), a) := by
  intro h
  rw [isNormal_auxiliary] at h
  cases h

omit hdeliver in
/-- A run whose calls are bound and that leaves the decision alone follows the decision. -/
theorem decided_of_binding
    {α : Type}
    {x : Run (World (AnsweredLine σ) Audience) α}
    {w : World (AnsweredLine σ) Audience}
    (h : World.Attended (fun _ => True) Reaction.isTame w →
      ∀ n, ∃ after : Except Halt α → Verdict,
        Binding peer x w ⟨n, w.courier.record.creditAction⟩ after
          ∧ (after (x w).result).action = w.courier.record.creditAction) :
    (decided peer).holds w (x w).trace (x w).state := by
  intro hw
  obtain ⟨after, hbinding, -⟩ := h hw true
  refine ⟨⟨hbinding.party_eq, fun n => ?_⟩, hbinding.tame⟩
  obtain ⟨after, hbinding, haction⟩ := h hw n
  have hbinds := hbinding.binds
  have hsame :
      after (x w).result =
        ⟨(after (x w).result).normal, (x w).state.courier.record.creditAction⟩ := by
    rw [hbinding.action_eq, ← haction]
  rw [hsame] at hbinds
  exact ⟨_, hbinds⟩

omit hdeliver in
/-- A command is made and the codec turns over before anything else. -/
theorem command_bind
    {α : Type}
    (build : Courier → List UInt8)
    (f : List UInt8 → Run (World (AnsweredLine σ) Audience) α)
    (w : World (AnsweredLine σ) Audience) :
    (World.command build >>= f) w =
      f (build w.courier)
        { w with courier := { w.courier with codec := w.courier.codec.turned } } := rfl

omit hdeliver in
theorem decided_command
    {α : Type}
    {build : Courier → List UInt8}
    {f : List UInt8 → Run (World (AnsweredLine σ) Audience) α}
    (hf : ∀ w : World (AnsweredLine σ) Audience,
      Run.Follows (decided peer) (f (build w.courier))) :
    Run.Follows (decided peer) (World.command build >>= f) := by
  intro w
  rw [command_bind]
  exact hf w { w with courier := { w.courier with codec := w.courier.codec.turned } }

/-- A command that is not a normal one, and its reply, leave the decision alone. -/
theorem decided_inquiry
    (c : Codec)
    (payload : List UInt8) :
    Run.Follows (decided peer)
      (World.transmit (answeredPort name peer) deliver (c.stamped Frame.auxiliaryType payload)
        >>= fun _ => World.collect (answeredPort name peer) deliver) := by
  intro w
  refine decided_of_binding fun hw n => ?_
  refine ⟨_, binding_inquiry name hdeliver hw (suits_auxiliary c payload _ _), ?_⟩
  rw [isNormal_auxiliary]
  unfold reading
  split <;> rfl

theorem decided_queryIdentity :
    Run.Follows (decided peer)
      (World.queryIdentity (answeredPort name peer) deliver) := by
  refine (decided_of_muted (muted_log _ _)).bind fun _ => decided_command fun w => ?_
  rw [← Run.bind_assoc]
  refine (decided_inquiry name hdeliver w.courier.codec Codec.identityPayload).bind
    fun reply => decided_of_muted ?_
  refine (muted_log _ _).ite ((Run.Follows.look _).bind fun _ => ?_)
  refine (Run.Follows.ofExcept _).bind fun text => ?_
  exact Run.Follows.bind (muted_change fun _ => rfl) fun _ => muted_log _ _

theorem decided_resetAcceptor :
    Run.Follows (decided peer)
      (World.resetAcceptor (answeredPort name peer) deliver) := by
  refine (decided_of_muted (muted_log _ _)).bind fun _ => decided_command fun w => ?_
  refine Run.Follows.bind ?_ fun _ => decided_of_muted ?_
  · intro v
    refine decided_of_binding fun hv n => ?_
    exact ⟨_, binding_transmit name hdeliver hv (suits_auxiliary w.courier.codec _ _ _), rfl⟩
  · exact (muted_disconnect name).bind fun _ =>
      (muted_emit rfl).bind fun _ =>
        (muted_asks rfl (World.asks_connect name peer)).bind fun _ => muted_log _ _

theorem muted_fireAll :
    ∀ es : List Event, Run.Follows (muted peer) (World.fireAll deliver es)
  | [] => Run.Follows.give ()
  | e :: rest =>
      (muted_fire hdeliver.follows e).bind fun _ => muted_fireAll rest

/-- After a frame is absorbed the record holds what it decides, and nothing was sent. -/
theorem absorb_frame
    {x : List UInt8}
    (hx : Frame.accepts x = true)
    {w : World (AnsweredLine σ) Audience}
    (hw : World.Attended (fun _ => True) Reaction.isTame w) :
    let r := World.absorb deliver x w
    World.Attended (fun _ => True) Reaction.isTame r.state
      ∧ r.trace.party peer w.port.party = r.state.port.party
      ∧ (∀ y ∈ r.trace.calls peer w.port.party, y.1.isTraffic = false)
      ∧ r.state.courier.record.creditAction = Reply.decision x := by
  rw [World.absorb_of_frame deliver hx w]
  obtain ⟨⟨hparty, hcalls, haction⟩, htame⟩ := muted_fireAll hdeliver _
    { w with courier :=
      { w.courier with record := w.courier.record.updated (Reply.decode w.courier.codec x) } } hw
  refine ⟨htame, hparty, hcalls, haction.trans ?_⟩
  exact Reply.decode_creditAction w.courier.codec x

/-- After the inquiry of a normal command, the verdict is what the record comes to hold. -/
theorem decided_normal
    {inquiry : Run (World (AnsweredLine σ) Audience) (List UInt8)}
    {w : World (AnsweredLine σ) Audience}
    (hframe : ∀ x, (inquiry w).result = .ok x → x = [] ∨ Frame.accepts x = true)
    (hinquiry : ∀ n, Binding peer inquiry w ⟨n, w.courier.record.creditAction⟩
      (reading ⟨true, w.courier.record.creditAction⟩)) :
    (decided peer).holds w ((inquiry >>= World.absorb deliver) w).trace
      ((inquiry >>= World.absorb deliver) w).state := by
  intro hw
  have hparty := (hinquiry true).party_eq
  have haction := (hinquiry true).action_eq
  have htame := (hinquiry true).tame
  have hbinds (n : Bool) := (hinquiry n).binds
  cases hr : (inquiry w).result with
  | error h =>
      rw [Run.bind_of_error hr]
      rw [hr] at hbinds
      refine ⟨⟨hparty, fun n => ⟨true, ?_⟩⟩, htame⟩
      rw [haction]
      exact hbinds n
  | ok x =>
      rw [Run.bind_of_ok hr]
      rw [hr] at hbinds
      rcases hframe x hr with rfl | hx
      · have hsame (v : Verdict) : v.reading (.ok []) = v := heed_of_rejected v rfl
        refine ⟨⟨?_, fun n => ⟨true, ?_⟩⟩, htame⟩
        · rw [Trace.party_append, hparty]
          rfl
        · change Binds _ (((inquiry w).trace ++ []).calls peer _)
            ⟨true, (inquiry w).state.courier.record.creditAction⟩
          rw [List.append_nil, haction]
          have hcalls := hbinds n
          rwa [hsame] at hcalls
      · -- The frame is heeded when it is read, and the record follows when it is absorbed.
        obtain ⟨ltame, lparty, lcalls, laction⟩ := absorb_frame hdeliver hx htame
        refine ⟨⟨?_, fun n => ⟨true, ?_⟩⟩, ltame⟩
        · rw [Trace.party_append, hparty, lparty]
        · rw [Trace.calls_append, hparty, laction]
          have hheeded :
              reading ⟨true, w.courier.record.creditAction⟩ (.ok x) =
                ⟨true, Reply.decision x⟩ := by
            simp [reading, heed, hx]
          have hcalls := hbinds n
          rw [hheeded] at hcalls
          exact hcalls.append (binds_silent _ lcalls)

/-- A normal command and its reply leave the decision that the record then holds. -/
theorem decided_pollState :
    Run.Follows (decided peer) (World.pollState (answeredPort name peer) deliver) := by
  intro w hw
  rw [World.pollState_eq, command_bind]
  let v : World (AnsweredLine σ) Audience :=
    { w with courier := { w.courier with codec := w.courier.codec.turned } }
  refine decided_normal hdeliver (w := v) ?_ (fun n => ?_) hw
  · intro x hx
    obtain ⟨u, -, hcollect⟩ := Run.ok_of_bind hx
    exact collect_ok name hcollect
  · have hinquiry := binding_inquiry name hdeliver (w := v) hw
      (suits_normalCommand w.courier.codec ⟨n, w.courier.record.creditAction⟩ .nothing)
    rwa [isNormal_normalCommand] at hinquiry

theorem decided_serve
    (request : Option Request) :
    Run.Follows (decided peer) (World.serve (answeredPort name peer) deliver request) := by
  cases request with
  | none =>
      exact decided_pollState name hdeliver
  | some r =>
      cases r with
      | identity =>
          exact decided_queryIdentity name hdeliver
      | reset =>
          exact decided_resetAcceptor name hdeliver

omit hdeliver in
theorem muted_recover
    (h : Halt) :
    Run.Follows (muted peer) (World.recover (answeredPort name peer) h) := by
  cases h with
  | exit status =>
      exact Run.Follows.halt _
  | fault f =>
      cases f with
      | linkDown text =>
          exact (muted_log _ _).bind fun _ =>
            (muted_disconnect name).bind fun _ => Run.Follows.give _
      | _ =>
          exact (muted_log _ _).bind fun _ => Run.Follows.give _

theorem muted_account
    (completed : Bool) :
    Run.Follows (muted peer) (World.account deliver completed) := by
  refine Run.Follows.bind (muted_change fun _ => rfl) fun _ => (Run.Follows.give _).ite ?_
  refine (Run.Follows.look _).bind fun count => (Run.Follows.look _).bind fun limit => ?_
  refine (Run.Follows.ofExcept _).bind fun reached => Run.Follows.ite ?_ (Run.Follows.give _)
  exact (muted_log _ _).bind fun _ => muted_fire hdeliver.follows _

theorem decided_tick :
    Run.Follows (decided peer) (World.tick (answeredPort name peer) deliver) := by
  have htake : Run.Follows (muted peer) World.takeRequest :=
    (Run.Follows.look _).bind fun _ => (muted_control _).bind fun _ => Run.Follows.give _
  have hopen : Run.Follows (muted peer) (World.ensureOpen (answeredPort name peer)) :=
    (Run.Follows.look _).bind fun _ =>
      (Run.Follows.give _).ite (muted_asks rfl (World.asks_connect name peer))
  refine (decided_of_muted htake).bind fun request => Run.Follows.bind ?_ fun completed =>
    decided_of_muted (muted_account hdeliver completed)
  refine Run.Follows.handle ?_ fun h => decided_of_muted (muted_recover name h)
  exact (decided_of_muted hopen).bind fun _ =>
    (decided_serve name hdeliver request).bind fun _ => Run.Follows.give _

theorem decided_perform
    (op : Operation) :
    Run.Follows (decided peer)
      (World.perform (answeredPort name peer) deliver op) :=
  (decided_concludes name).perform (fun _ _ => decided_of_muted (muted_change fun _ => rfl))
    (fun e _ => decided_of_muted (muted_fire hdeliver.follows e))
    fun _ => decided_tick name hdeliver

end Ticks

/-- Every operation follows the decision, while listeners do not tick. -/
theorem decided_step
    (name : Value)
    (op : Operation) :
    Run.Follows (decided peer) (World.step (answeredPort name peer) op) := fun w =>
  decided_perform name ((silent_bears name).mild w.audience.depth) op w

/-! ## What the last reply has to say -/

/-- The replies to normal commands among calls; the flag says that the last command before
them was a normal one. -/
def normalReplies : Bool → List (PortCall × Answer) → List (List UInt8)
  | _, [] => []
  | _, (.send bs, _) :: rest => normalReplies (Frame.isNormal bs) rest
  | true, (.receive _ _, .bytes x) :: rest => x :: normalReplies true rest
  | n, _ :: rest => normalReplies n rest

/-- The action that the last valid one of replies decides on, or the one before them. -/
def settled (a : CreditAction) (replies : List (List UInt8)) : CreditAction :=
  match (replies.filter Frame.accepts).getLast? with
  | some x => Reply.decision x
  | none => a

theorem settled_cons
    (a : CreditAction)
    (x : List UInt8)
    (rest : List (List UInt8)) :
    settled a (x :: rest) = settled (if Frame.accepts x then Reply.decision x else a) rest := by
  unfold settled
  by_cases hx : Frame.accepts x = true
  · rw [List.filter_cons_of_pos hx, List.getLast?_cons]
    cases (rest.filter Frame.accepts).getLast? with
    | none =>
        simp [hx]
    | some y =>
        simp
  · rw [List.filter_cons_of_neg hx]
    simp [hx]

/-- A call changes the verdict as it changes what the last valid reply is. -/
theorem settled_next
    (v : Verdict)
    (x : PortCall × Answer)
    (rest : List (PortCall × Answer)) :
    settled (v.next x).action (normalReplies (v.next x).normal rest) =
      settled v.action (normalReplies v.normal (x :: rest)) := by
  obtain ⟨n, action⟩ := v
  obtain ⟨c, a⟩ := x
  cases c with
  | receive count timeout =>
      cases a with
      | bytes y =>
          cases n with
          | false =>
              rfl
          | true =>
              rw [normalReplies, settled_cons]
              by_cases hy : Frame.accepts y = true <;> simp [next, heed, hy]
      | _ =>
          cases n <;> rfl
  | _ =>
      cases n <;> rfl

/-- A normal command among bound calls tells what the last valid reply before it decides on. -/
theorem Binds.command
    {v u : Verdict}
    {pre post : List (PortCall × Answer)}
    {bs : List UInt8}
    {a : Answer}
    (h : Binds v (pre ++ (.send bs, a) :: post) u)
    (hbs : Frame.isNormal bs = true) :
    bs[4]? = some
      (Codec.escrowMode ||| (settled v.action (normalReplies v.normal pre)).bits) := by
  induction pre generalizing v with
  | nil =>
      cases h with
      | call hsuits hrest =>
          exact hsuits hbs
  | cons x rest ih =>
      cases h with
      | call hsuits hrest =>
          rw [← settled_next]
          exact ih hrest

end Verdict

/-- Every normal command in a row of operations tells what the last valid reply to a normal
command before it has decided: to accept a bill in escrow, or nothing. -/
theorem World.normal_commands_tell_last_reply
    {σ : Type}
    {peer : Peer σ}
    {w : World (AnsweredLine σ) Audience}
    {pre post : List (PortCall × Answer)}
    {bs : List UInt8}
    {a : Answer}
    (name : Value)
    (ops : List Operation)
    (hplans : w.audience.Plans Reaction.isTame)
    (hfresh : w.courier.record.creditAction = .none)
    (hcalls : (chronicle (answeredPort name peer) ops w).calls peer w.port.party =
      pre ++ (.send bs, a) :: post)
    (hbs : Frame.isNormal bs = true) :
    let last := ((Verdict.normalReplies false pre).filter Frame.accepts).getLast?
    bs[4]? = some
      (if last.any fun x => Reply.dataByte x 0 &&& 0x04 != 0 then (0x30 : UInt8) else 0x10) := by
  intro last
  have hops : ∀ op ∈ ops,
      Run.Follows (Verdict.decided peer) (step (answeredPort name peer) op) :=
    fun op _ => Verdict.decided_step name op
  obtain ⟨⟨-, hbinds⟩, -⟩ := holds_chronicle hops w ⟨trivial, hplans⟩
  obtain ⟨m, hbinds⟩ := hbinds false
  rw [hcalls, hfresh] at hbinds
  rw [hbinds.command hbs]
  change some (Codec.escrowMode ||| (match last with
    | some x => Reply.decision x
    | none => CreditAction.none).bits) = _
  cases last with
  | none =>
      rfl
  | some x =>
      by_cases hbit : (Reply.dataByte x 0 &&& 0x04 != 0) = true <;>
        simp [Reply.decision, hbit] <;> rfl

/-- The reply of an acceptor that holds a bill in escrow. -/
def World.escrowedFrame : List UInt8 := Frame.encode Frame.replyType [0x04, 0x10, 0x08, 0, 0, 0]

/-- Of two normal commands with a stop between them, the second one accepts the bill that the
reply to the first one told of. -/
theorem World.normal_commands_accept_escrowed :
    ∃ pre bs, (chronicle (answeredPort .null (.steady Script.portResponder))
        [.poll, .start, .stop false, .poll]
        (unused ⟨[], .bytes escrowedFrame⟩ [⟨⟨"rec", .null⟩, []⟩])).calls
          Script.portResponder ⟨[], .bytes escrowedFrame⟩ =
        pre ++ [(.send bs, .nothing), (.receive 11 .null, .bytes escrowedFrame)]
      ∧ bs[4]? = some 0x30 := by
  let w := unused (⟨[], .bytes escrowedFrame⟩ : Script) [⟨⟨"rec", .null⟩, []⟩]
  let pre : List (PortCall × Answer) :=
    [(.connect, .nothing), (.send [2, 8, 16, 127, 16, 0, 3, 119], .nothing),
      (.receive 11 .null, .bytes escrowedFrame), (.disconnect, .nothing), (.connect, .nothing)]
  have hplans : w.audience.Plans Reaction.isTame := Audience.plans_planless _
  have hcalls : (chronicle (answeredPort .null (.steady Script.portResponder))
      [.poll, .start, .stop false, .poll] w).calls Script.portResponder w.port.party =
        pre ++ [(.send [2, 8, 17, 127, 48, 0, 3, 86], .nothing),
          (.receive 11 .null, .bytes escrowedFrame)] := by
    decide +kernel
  refine ⟨pre, _, hcalls, ?_⟩
  exact @normal_commands_tell_last_reply _ (.steady Script.portResponder) _ _ _ _ _ .null _ hplans
    rfl hcalls (by decide)

end AcceptorHost
