import AcceptorHost.Proofs.ExpectedCommands
import AcceptorHost.Proofs.TickLaws

/-!
# The acknowledgement bit on the wire

A command takes the acknowledgement bit of the codec when it is made, and the codec turns
over then; the acceptor sees the bit when the command is sent.  Between the two only tame
listeners are told, so every command that is made is sent next (`signed_inquire`).
Everything else that happens sends nothing and leaves the codec as it is.  So whatever a
port does, the commands that are passed to it show the bits of a codec that turns over
from each of them to the next.
-/

namespace AcceptorHost

/-! ## Commands that are passed to a port -/

/-- The bytes that a call sends. -/
def PortCall.sent? : PortCall → Option (List UInt8)
  | .send bs => some bs
  | _ => none

/-- The commands that are passed to the port in a trace. -/
def Trace.commands (t : Trace) : List (List UInt8) := t.portCalls.filterMap PortCall.sent?

@[simp] theorem Trace.commands_append
    (t u : Trace) :
    (t ++ u).commands = t.commands ++ u.commands := by
  simp [commands]

theorem Trace.commands_of_not_isCall
    {e : Entry}
    (he : e.isCall = false) :
    Trace.commands [e] = [] := by
  cases e with
  | port c =>
      cases he
  | _ =>
      rfl

/-- A run whose trace is a call on a port. -/
def Run.recorded {S α : Type} (c : PortCall) (x : Run S α) : Run S α := fun s =>
  ⟨[.port c], (x s).result, (x s).state⟩

/-- A port that does what another one does and records what it is called for. -/
def Port.recorded {σ : Type} (p : Port σ) : Port σ where
  name := p.name
  isOpen := p.isOpen
  connect := p.connect.recorded .connect
  disconnect := p.disconnect.recorded .disconnect
  discard := p.discard.recorded .discard
  send bs := (p.send bs).recorded (.send bs)
  receive n timeout := (p.receive n timeout).recorded (.receive n timeout)

theorem Run.recorded_eq
    {S α : Type}
    {c : PortCall}
    {x : Run S α}
    (h : ∀ s, (x s).trace = [.port c]) :
    x.recorded c = x := by
  funext s
  rw [recorded, ← h s]

/-- An answered port records what it is called for. -/
theorem recorded_answeredPort
    {σ : Type}
    (name : Value)
    (peer : Peer σ) :
    (answeredPort name peer).recorded = answeredPort name peer := by
  have hcall (c : PortCall) : (AnsweredLine.call peer c).recorded c = AnsweredLine.call peer c :=
    Run.recorded_eq fun s => congrArg Report.trace (AnsweredLine.call_eq peer c s)
  unfold Port.recorded answeredPort
  congr 1
  · exact hcall .connect
  · exact hcall .disconnect
  · exact hcall .discard
  · exact funext fun bs => hcall (.send bs)

/-! ## Codecs that turn over -/

namespace Codec

/-- A codec after so many commands. -/
def after (c : Codec) (n : Nat) : Codec := if n % 2 = 0 then c else c.turned

theorem turned_turned
    (c : Codec) :
    c.turned.turned = c := by
  simp [turned]

theorem after_after
    (c : Codec)
    (m n : Nat) :
    (c.after m).after n = c.after (m + n) := by
  rcases Nat.mod_two_eq_zero_or_one m with hm | hm <;>
    rcases Nat.mod_two_eq_zero_or_one n with hn | hn <;>
    simp [after, Nat.add_mod, hm, hn, turned_turned]

/-- From a codec whose bit is down the bit counts the commands by twos. -/
theorem ackBit_after
    {c : Codec}
    (hack : c.ack = false)
    (n : Nat) :
    (c.after n).ackBit = UInt8.ofNat (n % 2) := by
  rcases Nat.mod_two_eq_zero_or_one n with hn | hn <;>
    simp [after, ackBit, turned, hn, hack]

/-- Commands show the bits of a codec that turns over from each of them to the next. -/
structure Signs (c : Codec) (sent : List (List UInt8)) (d : Codec) : Prop where
  bit_eq : ∀ k bytes, sent[k]? = some bytes →
    bytes[2]?.map (· &&& 1) = some (c.after k).ackBit
  codec_eq : d = c.after sent.length

namespace Signs

theorem none
    (c : Codec) :
    c.Signs [] c where
  bit_eq k bytes hk := by cases hk
  codec_eq := rfl

/-- One command shows the bit, and the codec turns over. -/
theorem one
    {c : Codec}
    {bytes : List UInt8}
    (hbit : bytes[2]?.map (· &&& 1) = some c.ackBit) :
    c.Signs [bytes] c.turned where
  bit_eq k more hk := by
    obtain ⟨rfl, rfl⟩ : k = 0 ∧ bytes = more := by
      simpa [List.getElem?_singleton] using hk
    exact hbit
  codec_eq := rfl

theorem append
    {c d e : Codec}
    {sent more : List (List UInt8)}
    (h : c.Signs sent d)
    (k : d.Signs more e) :
    c.Signs (sent ++ more) e where
  bit_eq i bytes hi := by
    rcases Nat.lt_or_ge i sent.length with hlt | hge
    · rw [List.getElem?_append_left hlt] at hi
      exact h.bit_eq i bytes hi
    · rw [List.getElem?_append_right hge] at hi
      have hbit := k.bit_eq (i - sent.length) bytes hi
      rw [h.codec_eq, after_after] at hbit
      rwa [Nat.add_sub_cancel' hge] at hbit
  codec_eq := by
    rw [k.codec_eq, h.codec_eq, after_after, List.length_append]

end Signs

/-- A command shows the bit of its codec if its type leaves room for it. -/
theorem bit_stamped
    (c : Codec)
    {kind : UInt8}
    (hkind : kind &&& 1 = 0)
    (payload : List UInt8) :
    (c.stamped kind payload)[2]?.map (· &&& 1) = some c.ackBit := by
  have hack : c.ackBit &&& 1 = c.ackBit := by
    unfold ackBit
    split <;> rfl
  have hsplit : (kind ||| c.ackBit) &&& 1 = kind &&& 1 ||| c.ackBit &&& 1 :=
    UInt8.eq_of_toBitVec_eq BitVec.and_or_distrib_right
  have hbit : (kind ||| c.ackBit) &&& 1 = c.ackBit := by
    rw [hsplit, hkind, hack, UInt8.zero_or]
  simp [stamped, Frame.encode, Frame.body, hbit]

end Codec

theorem Courier.bit_commandFor
    (request : Option Request)
    (c : Courier) :
    (Courier.commandFor request c)[2]?.map (· &&& 1) = some c.codec.ackBit := by
  cases request with
  | none =>
      exact c.codec.bit_stamped (by decide) _
  | some r =>
      cases r with
      | identity =>
          exact c.codec.bit_stamped (by decide) _
      | reset =>
          exact c.codec.bit_stamped (by decide) _

/-! ## Along runs -/

namespace Passage

variable (σ : Type)

/-- Along a run no command is sent and the codec stays. -/
def wordless : Passage (World σ Audience) where
  holds w t v := t.commands = [] ∧ v.courier.codec = w.courier.codec
  stay _ := ⟨rfl, rfl⟩
  onward := by
    rintro w t v u x ⟨hnone, hcodec⟩ ⟨knone, kcodec⟩
    rw [Trace.commands_append, hnone, knone]
    exact ⟨rfl, kcodec.trans hcodec⟩

/-- Along a run the commands that are sent show the bits of the codec. -/
def signing : Passage (World σ Audience) where
  holds w t v := w.courier.codec.Signs t.commands v.courier.codec
  stay w := .none w.courier.codec
  onward := by
    intro w t v u x h k
    rw [Trace.commands_append]
    exact h.append k

/-- Nothing is said amid tame listeners. -/
abbrev unsaid : Passage (World σ Audience) := (wordless σ).amid (fun _ => True) Reaction.isTame

/-- Commands are signed amid tame listeners. -/
abbrev signed : Passage (World σ Audience) := (signing σ).amid (fun _ => True) Reaction.isTame

end Passage

namespace World

variable {σ α : Type} {port : Port σ} {deliver : Deliver σ Audience}

theorem signed_of_unsaid
    {x : Run (World σ Audience) α}
    (h : Run.Follows (.unsaid σ) x) :
    Run.Follows (.signed σ) x := by
  intro w hw
  obtain ⟨⟨hnone, hcodec⟩, hafter⟩ := h w hw
  refine ⟨?_, hafter⟩
  change w.courier.codec.Signs (x w).trace.commands (x w).state.courier.codec
  rw [hnone, hcodec]
  exact .none _

theorem unsaid_emit
    {e : Entry}
    (he : e.isCall = false) :
    Run.Follows (.unsaid σ) (Run.emit e) := fun _ hw =>
  ⟨⟨Trace.commands_of_not_isCall he, rfl⟩, hw⟩

theorem unsaid_change
    {f : Courier → Courier}
    (hf : ∀ c, (f c).codec = c.codec) :
    Run.Follows (.unsaid σ) (change f) := fun _ hw =>
  ⟨⟨rfl, hf _⟩, hw⟩

/-- A call that sends nothing is wordless. -/
theorem unsaid_recorded
    {c : PortCall}
    (hc : c.sent? = none)
    (x : Run σ α) :
    Run.Follows (.unsaid σ) (onPort (x.recorded c)) := by
  intro w hw
  refine ⟨⟨?_, rfl⟩, hw⟩
  change [c].filterMap PortCall.sent? = []
  rw [List.filterMap_cons_none hc, List.filterMap_nil]

variable (port) in
/-- Whatever tame listeners bring about, it is wordless. -/
theorem wordless_bears :
    (Passage.wordless σ).Bears (fun _ => True) Reaction.isTame port.recorded := by
  have hconcludes : (Passage.unsaid σ).Concludes port.recorded :=
    Passage.concludes_of_emit (fun _ he => unsaid_emit (Entry.isCall_of_isInert he))
      (fun _ => unsaid_change fun _ => rfl) (unsaid_recorded rfl port.disconnect)
  refine hconcludes.bears (fun _ he => unsaid_emit he) (fun _ _ => ⟨rfl, rfl⟩)
    (fun _ => unsaid_change fun _ => rfl) ?_
  rintro (hpoll | hpass)
  · cases hpoll
  · cases hpass

section Ticks

variable (hdeliver : Mild (fun _ => True) Reaction.isTame (Passage.wordless σ) deliver)
include hdeliver

/-- A command that is made is sent next, for the listeners that are told in between are tame. -/
theorem signed_inquire
    (request : Option Request) :
    Run.Follows (.signed σ)
      (command (Courier.commandFor request) >>= transmit port.recorded deliver) := by
  intro w hw
  let bytes := Courier.commandFor request w.courier
  let v : World σ Audience :=
    { w with courier := { w.courier with codec := w.courier.codec.turned } }
  let e : Event := .traffic .sent (HexText.spaced bytes)
  have hcommand : (command (Courier.commandFor request) w).result = .ok bytes := rfl
  have hfire : (fire deliver e v).result = .ok () :=
    hdeliver.fire_ok (fun _ _ => unsaid_emit rfl) (fun _ h => h) e hw
  obtain ⟨⟨hnone, hcodec⟩, hafter⟩ := (wordless_bears port).fire hdeliver e v hw
  have htransmit : transmit port.recorded deliver bytes v = _ :=
    Run.bind_of_ok (f := fun _ => onPort (port.recorded.send bytes)) hfire
  have hsent : ((fire deliver e v).trace ++ [Entry.port (.send bytes)]).commands = [bytes] := by
    rw [Trace.commands_append, hnone]
    rfl
  rw [Run.bind_of_ok hcommand]
  change w.courier.codec.Signs (transmit port.recorded deliver bytes v).trace.commands
      (transmit port.recorded deliver bytes v).state.courier.codec ∧
    Attended (fun _ => True) Reaction.isTame (transmit port.recorded deliver bytes v).state
  rw [htransmit]
  refine ⟨?_, hafter⟩
  change w.courier.codec.Signs ((fire deliver e v).trace ++ [Entry.port (.send bytes)]).commands
    (fire deliver e v).state.courier.codec
  rw [hsent, hcodec]
  exact .one (Courier.bit_commandFor request w.courier)

/-- The commands of a tick show the bits of the codec. -/
theorem signed_tick :
    Run.Follows (.signed σ) (tick port.recorded deliver) := by
  have hserves : (Passage.signed σ).Serves port.recorded deliver :=
    { log := fun _ _ _ => signed_of_unsaid (unsaid_emit rfl)
      failed := fun _ _ => signed_of_unsaid (unsaid_emit rfl)
      slept := fun _ => signed_of_unsaid (unsaid_emit rfl)
      mailbox := fun _ => signed_of_unsaid (unsaid_change fun _ => rfl)
      record := fun _ => signed_of_unsaid (unsaid_change fun _ => rfl)
      connect := signed_of_unsaid (unsaid_recorded rfl port.connect)
      disconnect := signed_of_unsaid (unsaid_recorded rfl port.disconnect)
      discard := signed_of_unsaid (unsaid_recorded rfl port.discard)
      receive := fun n timeout => signed_of_unsaid (unsaid_recorded rfl (port.receive n timeout))
      delivered := fun l e => signed_of_unsaid (hdeliver.follows l e)
      inquire := signed_inquire hdeliver }
  exact hserves.tick

end Ticks

variable (port) in
/-- The commands of an operation among tame listeners show the bits of the codec. -/
theorem signed_step
    (op : Operation) :
    Run.Follows (.signed σ) (step port.recorded op) := by
  intro w
  have hbears := wordless_bears port
  have hmild := hbears.mild w.audience.depth
  have hconcludes : (Passage.signed σ).Concludes port.recorded :=
    Passage.concludes_of_emit
      (fun _ he => signed_of_unsaid (unsaid_emit (Entry.isCall_of_isInert he)))
      (fun _ => signed_of_unsaid (unsaid_change fun _ => rfl))
      (signed_of_unsaid (unsaid_recorded rfl port.disconnect))
  exact hconcludes.perform (fun _ _ => signed_of_unsaid (unsaid_change fun _ => rfl))
    (fun e _ => signed_of_unsaid (hbears.fire hmild e)) (fun _ => signed_tick hmild) w

/--
Commands that are passed to a port in a row of operations alternate in the bit that they
show, whatever the port does: from a codec whose bit is down the command of number `k`,
counted from zero, shows `k` modulo two, and an operation that passes no command to the
port leaves the bit to the next one that does.
-/
theorem commands_alternate
    (port : Port σ)
    (ops : List Operation)
    {w : World σ Audience}
    (hack : w.courier.codec.ack = false)
    (hplans : w.audience.Plans Reaction.isTame) :
    (∀ k bytes, (chronicle port.recorded ops w).commands[k]? = some bytes →
      bytes[2]?.map (· &&& 1) = some (UInt8.ofNat (k % 2))) ∧
      ∀ before op after, ops = before ++ op :: after →
        let v := reached port.recorded before w
        let r := step port.recorded op v
        r.trace.commands = [] → r.state.courier.codec = v.courier.codec := by
  have hfollows (ops : List Operation) :
      ∀ op ∈ ops, Run.Follows (.signed σ)
        (step port.recorded op) :=
    fun op _ => signed_step port op
  constructor
  · intro k bytes hk
    obtain ⟨hsigns, -⟩ := holds_chronicle (hfollows ops) w ⟨trivial, hplans⟩
    rw [hsigns.bit_eq k bytes hk, Codec.ackBit_after hack]
  · rintro before op after - v r hnone
    obtain ⟨-, hv⟩ := holds_chronicle (hfollows before) w ⟨trivial, hplans⟩
    obtain ⟨hsigns, -⟩ := signed_step port op v hv
    have hcodec := hsigns.codec_eq
    rw [hnone] at hcodec
    exact hcodec

/-- A port that fails to open, then to send, before a reset, a pause and a stop: the third
command shows a bit that is down again, and the first tick has turned nothing over. -/
theorem commands_alternate_unused :
    let port := answeredPort .null (.steady Responder.ofOutcomes)
    let outcomes : List (Except Fault (List UInt8)) :=
      [.error .wrongType, .ok [], .error (.noReply "late")]
    let ops : List Operation :=
      [.poll, .poll, .request .reset, .poll, .pause true, .start, .pass, .pause false, .pass,
        .stop false, .poll]
    let w := unused outcomes [⟨⟨"rec", .null⟩, []⟩]
    (∃ bytes, (chronicle port ops w).commands[2]? = some bytes
        ∧ bytes[2]?.map (· &&& 1) = some 0)
      ∧ (step port .poll w).state.courier.codec = w.courier.codec := by
  intro port outcomes ops w
  have hplans : w.audience.Plans Reaction.isTame := Audience.plans_planless _
  have hthird : (chronicle port ops w).commands[2]? =
      some [0x02, 0x08, 0x10, 0x7F, 0x10, 0x00, 0x03, 0x77] := by
    decide +kernel
  have halternate := commands_alternate port ops (w := w) rfl hplans
  rw [recorded_answeredPort] at halternate
  obtain ⟨hbits, hsilent⟩ := halternate
  refine ⟨⟨_, hthird, hbits 2 _ hthird⟩, ?_⟩
  exact hsilent [] .poll ops.tail rfl (by decide +kernel)

end World

end AcceptorHost
