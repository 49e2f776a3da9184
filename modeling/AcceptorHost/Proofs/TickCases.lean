import AcceptorHost.Courier.Operation
import AcceptorHost.Proofs.LoopState
import AcceptorHost.Proofs.Replies

/-!
# What a tick can do

The cases of a tick over an answered port: `Collection` for the reading of a reply,
`Inquiry` for a command and its reply, `Service` for the exchange of a request, `Opened`
for an exchange with the opening of the port before it, and `Course` for a whole tick with
its accounting.  Each relates the desk before,
the acts, the result and the desk after.  `leaves_tick` says that every tick has a
course, whatever the port answers and however discreet listeners behave.
-/

namespace AcceptorHost

/-- What an exchange leaves as it is: only its accounting, or nobody, changes it. -/
structure Standing where
  policy : Policy
  billNames : List Value
  healthy : Bool
  failures : Nat

namespace Desk

variable {σ : Type}

/-- The call that reads a reply. -/
def reading (d : Desk σ) : PortCall := .receive Frame.replySize d.policy.timeout

/-- The command of a request. -/
def command (d : Desk σ) : Option Request → List UInt8
  | none => d.codec.normalCommand d.record.creditAction
  | some .identity => d.codec.identityCommand
  | some .reset => d.codec.resetCommand

/-- The desk after a command is made. -/
def turned (d : Desk σ) : Desk σ := { d with codec := d.codec.turned }

/-- The record with the serial number of a reply, if the reply is long enough to hold one. -/
def identified (d : Desk σ) (x : List UInt8) : Record :=
  match SerialNumber.ofBytes d.policy.unsignedSerial
      ((x.drop World.serialNumberOffset).take SerialNumber.size) with
  | .ok text => { d.record with serialNumber := some text }
  | .error _ => d.record

/-- The desk after a frame is received in answer to the command of a request. -/
def learned (d : Desk σ) (x : List UInt8) : Option Request → Desk σ
  | none => { d with record := d.record.updated (Reply.decode d.codec x) }
  | some .identity => { d with record := d.identified x }
  | some .reset => d

/-- What a frame in answer to the command of a request gives to tell. -/
def news (d : Desk σ) (x : List UInt8) : Option Request → List Event
  | none =>
      (Reply.decode d.codec x).events.map (World.eventOf (Reply.decode d.codec x))
  | some _ => []

/-- The desk after an exchange is accounted for. -/
def accounted (completed : Bool) (d : Desk σ) : Desk σ :=
  { d with
    record := { d.record with
      healthy := completed
      failures := if completed then 0 else d.record.failures + 1 } }

/-- What a failure that is accounted for gives to tell. -/
def alarm (d : Desk σ) : Except Fault (List Event) :=
  (Policy.reached d.policy.retryLimit d.record.failures).map fun reached =>
    if reached then [.connectionFailure d.record.failures] else []

/-- What an exchange leaves as it is. -/
def standing (d : Desk σ) : Standing :=
  ⟨d.policy, d.codec.billNames, d.record.healthy, d.record.failures⟩

@[simp] theorem standing_after
    (peer : Peer σ)
    (c : PortCall)
    (d : Desk σ) :
    (d.after peer c).standing = d.standing := rfl

@[simp] theorem standing_turned
    (d : Desk σ) :
    d.turned.standing = d.standing := rfl

@[simp] theorem standing_learned
    (d : Desk σ)
    (x : List UInt8)
    (request : Option Request) :
    (d.learned x request).standing = d.standing := by
  cases request with
  | none =>
      rfl
  | some r =>
      cases r with
      | identity =>
          unfold learned identified standing
          cases SerialNumber.ofBytes d.policy.unsignedSerial
            ((x.drop World.serialNumberOffset).take SerialNumber.size) <;> rfl
      | reset =>
          rfl

end Desk

namespace Vantage

variable {σ τ : Type} (V : Vantage σ τ)

/-- The reading of a reply. -/
inductive Collection (d : Desk σ) : List Act → Except Halt (List UInt8) → Desk σ → Prop
  /-- The call does not return. -/
  | failed
      (h : Halt)
      (ha : d.answer V.peer d.reading = .halts h) :
      Collection d [.called d.reading (.halts h)] (.error h) (d.after V.peer d.reading)
  /-- The call returns no bytes. -/
  | blank
      (ha : d.answer V.peer d.reading = .nothing) :
      Collection d [.called d.reading .nothing] (.error (.fault .wrongType))
        (d.after V.peer d.reading)
  /-- The bytes form a frame. -/
  | accepted
      (x : List UInt8)
      (ha : d.answer V.peer d.reading = .bytes x)
      (hx : Frame.accepts x = true) :
      Collection d
        (.called d.reading (.bytes x) :: V.tell (.traffic .received (HexText.spaced x)))
        (.ok x) (d.after V.peer d.reading)
  /-- The bytes form no frame, and what waits behind them is dropped. -/
  | dropped
      (x : List UInt8)
      (a : Answer)
      (ha : d.answer V.peer d.reading = .bytes x)
      (hx : Frame.accepts x = false)
      (hb : (d.after V.peer d.reading).answer V.peer .discard = a)
      (hok : a.failure? = none) :
      Collection d
        (.called d.reading (.bytes x) :: V.tell (.traffic .received (HexText.spaced x))
          ++ [.called .discard a])
        (.ok []) ((d.after V.peer d.reading).after V.peer .discard)
  /-- The bytes form no frame, and what waits behind them cannot be dropped. -/
  | stuck
      (x : List UInt8)
      (h : Halt)
      (ha : d.answer V.peer d.reading = .bytes x)
      (hx : Frame.accepts x = false)
      (hb : (d.after V.peer d.reading).answer V.peer .discard = .halts h) :
      Collection d
        (.called d.reading (.bytes x) :: V.tell (.traffic .received (HexText.spaced x))
          ++ [.called .discard (.halts h)])
        (.error h) ((d.after V.peer d.reading).after V.peer .discard)

/-- A command and its reply. -/
inductive Inquiry (bytes : List UInt8) (d : Desk σ) :
    List Act → Except Halt (List UInt8) → Desk σ → Prop
  /-- The command cannot be sent. -/
  | unsent
      (h : Halt)
      (ha : d.answer V.peer (.send bytes) = .halts h) :
      Inquiry bytes d
        (V.tell (.traffic .sent (HexText.spaced bytes)) ++ [.called (.send bytes) (.halts h)])
        (.error h) (d.after V.peer (.send bytes))
  /-- The command is sent and the reply is read. -/
  | sent
      {acts : List Act}
      {result : Except Halt (List UInt8)}
      {e : Desk σ}
      (a : Answer)
      (ha : d.answer V.peer (.send bytes) = a)
      (hok : a.failure? = none)
      (hread : Collection V (d.after V.peer (.send bytes)) acts result e) :
      Inquiry bytes d
        (V.tell (.traffic .sent (HexText.spaced bytes)) ++ .called (.send bytes) a :: acts)
        result e

/-- The exchange of a request over an open port. -/
inductive Service (d : Desk σ) : Option Request → List Act → Except Halt Unit → Desk σ → Prop
  /-- A command that is to be answered fails, or its reply does. -/
  | failed
      {request : Option Request}
      {acts : List Act}
      {e : Desk σ}
      (h : Halt)
      (hrequest : request ≠ some .reset)
      (hask : Inquiry V (d.command request) d.turned acts (.error h) e) :
      Service d request acts (.error h) e
  /-- The reply is no frame and is dropped. -/
  | dropped
      {request : Option Request}
      {acts : List Act}
      {e : Desk σ}
      (hrequest : request ≠ some .reset)
      (hask : Inquiry V (d.command request) d.turned acts (.ok []) e) :
      Service d request acts (.ok ()) e
  /-- The reply is a frame; what it says is learned and told. -/
  | answered
      {request : Option Request}
      {acts : List Act}
      {e : Desk σ}
      (x : List UInt8)
      (hrequest : request ≠ some .reset)
      (hx : Frame.accepts x = true)
      (hask : Inquiry V (d.command request) d.turned acts (.ok x) e) :
      Service d request (acts ++ (e.news x request).flatMap V.tell) (.ok ())
        (e.learned x request)
  /-- The reset cannot be sent. -/
  | resetUnsent
      (bytes : List UInt8)
      (h : Halt)
      (hbytes : d.command (some .reset) = bytes)
      (ha : d.turned.answer V.peer (.send bytes) = .halts h) :
      Service d (some .reset)
        (V.tell (.traffic .sent (HexText.spaced bytes)) ++ [.called (.send bytes) (.halts h)])
        (.error h) (d.turned.after V.peer (.send bytes))
  /-- The reset is sent, and the port cannot be closed. -/
  | resetUnclosed
      (bytes : List UInt8)
      (a : Answer)
      (h : Halt)
      (hbytes : d.command (some .reset) = bytes)
      (ha : d.turned.answer V.peer (.send bytes) = a)
      (hok : a.failure? = none)
      (hb : (d.turned.after V.peer (.send bytes)).answer V.peer .disconnect = .halts h) :
      Service d (some .reset)
        (V.tell (.traffic .sent (HexText.spaced bytes))
          ++ [.called (.send bytes) a, .called .disconnect (.halts h)])
        (.error h) ((d.turned.after V.peer (.send bytes)).after V.peer .disconnect)
  /-- The reset is sent, the port closed and, after a rest, asked to open. -/
  | resetRested
      (bytes : List UInt8)
      (a b c : Answer)
      (e : Desk σ)
      (hbytes : d.command (some .reset) = bytes)
      (ha : d.turned.answer V.peer (.send bytes) = a)
      (hok : a.failure? = none)
      (hb : (d.turned.after V.peer (.send bytes)).answer V.peer .disconnect = b)
      (hokb : b.failure? = none)
      (he : e = (d.turned.after V.peer (.send bytes)).after V.peer .disconnect)
      (hc : e.answer V.peer .connect = c) :
      Service d (some .reset)
        (V.tell (.traffic .sent (HexText.spaced bytes))
          ++ [.called (.send bytes) a, .called .disconnect b, .slept World.resetRest,
            .called .connect c])
        c.completion (e.after V.peer .connect)

/-- An exchange, with the opening of a port that is not open before it. -/
inductive Opened (d : Desk σ) (request : Option Request) :
    List Act → Except Halt Unit → Desk σ → Prop
  /-- The port is open. -/
  | ready
      {acts : List Act}
      {result : Except Halt Unit}
      {e : Desk σ}
      (hopen : d.line.isOpen = true)
      (hserve : Service V d request acts result e) :
      Opened d request acts result e
  /-- The port cannot be opened. -/
  | refused
      (h : Halt)
      (hopen : d.line.isOpen = false)
      (ha : d.answer V.peer .connect = .halts h) :
      Opened d request [.called .connect (.halts h)] (.error h) (d.after V.peer .connect)
  /-- The port is opened. -/
  | opened
      {acts : List Act}
      {result : Except Halt Unit}
      {e : Desk σ}
      (a : Answer)
      (hopen : d.line.isOpen = false)
      (ha : d.answer V.peer .connect = a)
      (hok : a.failure? = none)
      (hserve : Service V (d.after V.peer .connect) request acts result e) :
      Opened d request (.called .connect a :: acts) result e

/-- The acts of a failure that is accounted for. -/
def alarmActs (d : Desk σ) : List Act :=
  match d.alarm with
  | .ok es => es.flatMap V.tell
  | .error _ => []

@[simp] theorem calls_alarmActs
    (d : Desk σ) :
    Act.calls (alarmActs V d) = [] := by
  unfold alarmActs
  cases d.alarm with
  | ok es =>
      exact calls_flatMap_tell es
  | error f =>
      rfl

@[simp] theorem replies_alarmActs
    (d : Desk σ) :
    Act.replies (alarmActs V d) = [] := by
  unfold alarmActs
  cases d.alarm with
  | ok es =>
      exact replies_flatMap_tell es
  | error f =>
      rfl

/-- The ending of the accounting for a failure. -/
def alarmResult (d : Desk σ) : Except Halt Unit := (d.alarm.map fun _ => ()).mapError .fault

/-- A whole tick: the exchange of the request that was taken, and its accounting. -/
inductive Course (d : Desk σ) (request : Option Request) :
    List Act → Except Halt Unit → Desk σ → Prop
  /-- The exchange is completed. -/
  | completed
      {acts : List Act}
      {e : Desk σ}
      (hserve : Opened V d request acts (.ok ()) e) :
      Course d request acts (.ok ()) (e.accounted true)
  /-- The exchange fails, the link being up as far as is known. -/
  | missed
      {acts : List Act}
      {e : Desk σ}
      (f : Fault)
      (hup : ∀ text, f ≠ .linkDown text)
      (hserve : Opened V d request acts (.error (.fault f)) e) :
      Course d request (acts ++ V.alarmActs (e.accounted false))
        (alarmResult (e.accounted false)) (e.accounted false)
  /-- The link is down, and the port is closed. -/
  | severed
      {acts : List Act}
      {e : Desk σ}
      (text : String)
      (a : Answer)
      (hserve : Opened V d request acts (.error (.fault (.linkDown text))) e)
      (ha : e.answer V.peer .disconnect = a)
      (hok : a.failure? = none) :
      Course d request
        (acts ++ .called .disconnect a
          :: V.alarmActs ((e.after V.peer .disconnect).accounted false))
        (alarmResult ((e.after V.peer .disconnect).accounted false))
        ((e.after V.peer .disconnect).accounted false)
  /-- The link is down, and the port cannot be closed: nothing is accounted for. -/
  | escaped
      {acts : List Act}
      {e : Desk σ}
      (text : String)
      (h : Halt)
      (hserve : Opened V d request acts (.error (.fault (.linkDown text))) e)
      (ha : e.answer V.peer .disconnect = .halts h) :
      Course d request (acts ++ [.called .disconnect (.halts h)]) (.error h)
        (e.after V.peer .disconnect)
  /-- The exchange exits: nothing is accounted for. -/
  | exited
      {acts : List Act}
      {e : Desk σ}
      (status : Value)
      (hserve : Opened V d request acts (.error (.exit status)) e) :
      Course d request acts (.error (.exit status)) e


theorem Collection.empty_or_accepts
    {V : Vantage σ τ}
    {d e : Desk σ}
    {acts : List Act}
    {x : List UInt8}
    (h : V.Collection d acts (.ok x) e) :
    x = [] ∨ Frame.accepts x = true := by
  cases h with
  | accepted x ha hx =>
      exact Or.inr hx
  | dropped x a ha hx hb hok =>
      exact Or.inl rfl

theorem Inquiry.empty_or_accepts
    {V : Vantage σ τ}
    {bytes : List UInt8}
    {d e : Desk σ}
    {acts : List Act}
    {x : List UInt8}
    (h : V.Inquiry bytes d acts (.ok x) e) :
    x = [] ∨ Frame.accepts x = true := by
  cases h with
  | sent a ha hok hread =>
      exact hread.empty_or_accepts

/-! ## What an exchange leaves as it is -/

section Standing

variable {V : Vantage σ τ} {d e : Desk σ} {acts : List Act}

theorem Collection.standing_eq
    {result : Except Halt (List UInt8)}
    (h : V.Collection d acts result e) :
    e.standing = d.standing := by
  cases h <;> rfl

theorem Inquiry.standing_eq
    {bytes : List UInt8}
    {result : Except Halt (List UInt8)}
    (h : V.Inquiry bytes d acts result e) :
    e.standing = d.standing := by
  cases h with
  | unsent h ha =>
      rfl
  | sent a ha hok hread =>
      simpa using hread.standing_eq

theorem Service.standing_eq
    {request : Option Request}
    {result : Except Halt Unit}
    (h : V.Service d request acts result e) :
    e.standing = d.standing := by
  cases h with
  | failed h hrequest hask =>
      simpa using hask.standing_eq
  | dropped hrequest hask =>
      simpa using hask.standing_eq
  | answered x hrequest hx hask =>
      simpa using hask.standing_eq
  | resetUnsent bytes h hbytes ha =>
      rfl
  | resetUnclosed bytes a h hbytes ha hok hb =>
      rfl
  | resetRested bytes a b c e hbytes ha hok hb hokb he hc =>
      subst he
      simp

theorem Opened.standing_eq
    {request : Option Request}
    {result : Except Halt Unit}
    (h : V.Opened d request acts result e) :
    e.standing = d.standing := by
  cases h with
  | ready hopen hserve =>
      exact hserve.standing_eq
  | refused h hopen ha =>
      rfl
  | opened a hopen ha hok hserve =>
      simpa using hserve.standing_eq

theorem Course.billNames_eq
    {request : Option Request}
    {result : Except Halt Unit}
    (h : V.Course d request acts result e) :
    e.codec.billNames = d.codec.billNames := by
  cases h with
  | completed hserve =>
      exact congrArg Standing.billNames hserve.standing_eq
  | missed f hup hserve =>
      exact congrArg Standing.billNames hserve.standing_eq
  | severed text a hserve ha hok =>
      exact congrArg Standing.billNames hserve.standing_eq
  | escaped text h hserve ha =>
      exact congrArg Standing.billNames hserve.standing_eq
  | exited status hserve =>
      exact congrArg Standing.billNames hserve.standing_eq

end Standing

/-! ## Every tick has a course -/

variable {V} {deliver : Deliver (AnsweredLine σ) τ} (name : Value)

section Exchange

variable (hdeliver : V.Discreet deliver)
include hdeliver

theorem brings_transmit
    (d : Desk σ)
    (bytes : List UInt8) :
    V.Brings (World.transmit (answeredPort name V.peer) deliver bytes) d
      (V.tell (.traffic .sent (HexText.spaced bytes))
        ++ [.called (.send bytes) (d.answer V.peer (.send bytes))])
      (d.answer V.peer (.send bytes)).completion (d.after V.peer (.send bytes)) :=
  (brings_fire hdeliver _).bind (brings_send name bytes)

theorem exists_collection
    (d : Desk σ) :
    ∃ acts result e, V.Collection d acts result e ∧
      V.Brings (World.collect (answeredPort name V.peer) deliver) d acts result e := by
  have htimeout :
      V.Brings (World.ask fun c => c.policy.timeout) d [] (.ok d.policy.timeout) d :=
    Brings.ask fun w hw => by rw [← hw]; rfl
  have hread :
      V.Brings (World.onPort ((answeredPort name V.peer).receive Frame.replySize
        d.policy.timeout)) d [.called d.reading (d.answer V.peer d.reading)]
        (d.answer V.peer d.reading).ending (d.after V.peer d.reading) :=
    brings_receive name Frame.replySize d.policy.timeout
  cases ha : d.answer V.peer d.reading with
  | halts h =>
      rw [ha] at hread
      exact ⟨_, _, _, .failed h ha, htimeout.silently hread.bind_error⟩
  | nothing =>
      rw [ha] at hread
      exact ⟨_, _, _, .blank ha, htimeout.silently (hread.bind (Brings.halt _))⟩
  | bytes x =>
      rw [ha] at hread
      have htell := brings_fire hdeliver (d := d.after V.peer d.reading)
        (.traffic .received (HexText.spaced x))
      cases hx : Frame.accepts x with
      | true =>
          refine ⟨_, _, _, .accepted x ha hx, htimeout.silently (hread.bind ?_)⟩
          refine htell.quietly ?_
          rw [if_pos hx]
          exact Brings.give x
      | false =>
          have hdrop := brings_discard (V := V) (d := d.after V.peer d.reading) name
          have hif : ¬ Frame.accepts x = true := by simp [hx]
          cases hb : (d.after V.peer d.reading).answer V.peer .discard with
          | halts h =>
              rw [hb] at hdrop
              refine ⟨_, _, _, .stuck x h ha hx hb, htimeout.silently (hread.bind ?_)⟩
              refine htell.bind ?_
              rw [if_neg hif]
              exact hdrop.bind_error
          | _ =>
              rw [hb] at hdrop
              refine ⟨_, _, _, .dropped x _ ha hx hb rfl, htimeout.silently (hread.bind ?_)⟩
              refine htell.bind ?_
              rw [if_neg hif]
              exact hdrop.quietly ((Brings.log _ _).silently (Brings.give []))

theorem exists_inquiry
    (d : Desk σ)
    (bytes : List UInt8) :
    ∃ acts result e, V.Inquiry bytes d acts result e ∧
      V.Brings
        (World.transmit (answeredPort name V.peer) deliver bytes >>= fun _ =>
          World.collect (answeredPort name V.peer) deliver)
        d acts result e := by
  have hsend := brings_transmit name hdeliver d bytes
  cases ha : (d.answer V.peer (.send bytes)).failure? with
  | some h =>
      have hhalts := Answer.eq_halts_of_failure? ha
      rw [hhalts] at hsend
      exact ⟨_, _, _, .unsent h hhalts, hsend.bind_error⟩
  | none =>
      rw [Answer.completion_of_success ha] at hsend
      obtain ⟨acts, result, e, hcollection, hbrings⟩ :=
        exists_collection name hdeliver (d.after V.peer (.send bytes))
      have hboth := hsend.bind (f := fun _ => _) hbrings
      rw [List.append_assoc] at hboth
      exact ⟨_, _, _, .sent _ rfl ha hcollection, hboth⟩

omit hdeliver in
/-- What the answer to an identity query gives to learn is written down. -/
theorem brings_identify
    (d : Desk σ)
    (x : List UInt8) :
    V.Brings
      (if x.length < World.serialNumberOffset + SerialNumber.size then
        Run.log Level.warning
          ("Invalid serial number response: "
            ++ (if x.isEmpty then "<empty>" else HexText.spaced x))
      else do
        let unsigned ← World.ask fun c => c.policy.unsignedSerial
        let text ← Run.ofExcept
          (SerialNumber.ofBytes unsigned
            ((x.drop World.serialNumberOffset).take SerialNumber.size))
        World.record fun r => { r with serialNumber := some text }
        World.logFields Level.info [("event", .text "serial_number"), ("value", .text text)])
      d [] (.ok ()) (d.learned x (some .identity)) := by
  have hlength :
      ((x.drop World.serialNumberOffset).take SerialNumber.size).length =
        min SerialNumber.size (x.length - World.serialNumberOffset) := by
    rw [List.length_take, List.length_drop]
  have hsize : SerialNumber.size = 5 := rfl
  by_cases hx : x.length < World.serialNumberOffset + SerialNumber.size
  · have hshort :
        ((x.drop World.serialNumberOffset).take SerialNumber.size).length ≠
          SerialNumber.size := by
      omega
    obtain ⟨f, hf⟩ := SerialNumber.ofBytes_of_length_ne d.policy.unsignedSerial hshort
    have hsame : d.learned x (some .identity) = d := by
      simp only [Desk.learned, Desk.identified, hf]
    rw [if_pos hx, hsame]
    exact Brings.log _ _
  · have hlong :
        ((x.drop World.serialNumberOffset).take SerialNumber.size).length =
          SerialNumber.size := by
      omega
    obtain ⟨text, htext⟩ := SerialNumber.ofBytes_of_length_eq d.policy.unsignedSerial hlong
    have hlearned :
        d.learned x (some .identity) =
          { d with record := { d.record with serialNumber := some text } } := by
      simp only [Desk.learned, Desk.identified, htext]
    rw [if_neg hx, hlearned]
    refine Brings.silently
      (Brings.ask (v := d.policy.unsignedSerial) fun w hw => by rw [← hw]; rfl) ?_
    have hwrite := Brings.ofExcept (V := V) (d := d)
      (SerialNumber.ofBytes d.policy.unsignedSerial
        ((x.drop World.serialNumberOffset).take SerialNumber.size))
    rw [htext] at hwrite ⊢
    exact hwrite.silently ((Brings.record _).silently (Brings.log _ _))

theorem exists_service_poll
    (d : Desk σ) :
    ∃ acts result e, V.Service d none acts result e ∧
      V.Brings (World.pollState (answeredPort name V.peer) deliver) d acts result e := by
  have hmade :
      V.Brings (World.command fun c => c.codec.normalCommand c.record.creditAction) d []
        (.ok (d.command none)) d.turned :=
    Brings.command fun w hw => by rw [← hw]; rfl
  obtain ⟨acts, result, e, hinquiry, hbrings⟩ :=
    exists_inquiry name hdeliver d.turned (d.command none)
  unfold World.pollState
  cases result with
  | error h =>
      refine ⟨_, _, _, .failed h (by simp) hinquiry, hmade.silently ?_⟩
      rw [← Run.bind_assoc]
      exact hbrings.bind_error
  | ok x =>
      rcases hinquiry.empty_or_accepts with rfl | hx
      · refine ⟨_, _, _, .dropped (by simp) hinquiry, hmade.silently ?_⟩
        rw [← Run.bind_assoc]
        exact hbrings.quietly (Brings.give ())
      · refine ⟨_, _, _, .answered x (by simp) hx hinquiry, hmade.silently ?_⟩
        rw [← Run.bind_assoc]
        refine hbrings.bind ?_
        rw [if_neg (by simpa using Frame.ne_nil_of_accepts hx)]
        have hpacket :
            V.Brings (World.ask fun c => Reply.decode c.codec x) e []
              (.ok (Reply.decode e.codec x)) e :=
          Brings.ask fun w hw => by rw [← hw]; rfl
        exact hpacket.silently ((Brings.record _).silently (brings_fireAll hdeliver _))

theorem exists_service_identity
    (d : Desk σ) :
    ∃ acts result e, V.Service d (some .identity) acts result e ∧
      V.Brings (World.queryIdentity (answeredPort name V.peer) deliver) d acts result e := by
  have hmade :
      V.Brings (World.command fun c => c.codec.identityCommand) d []
        (.ok (d.command (some .identity))) d.turned :=
    Brings.command fun w hw => by rw [← hw]; rfl
  obtain ⟨acts, result, e, hinquiry, hbrings⟩ :=
    exists_inquiry name hdeliver d.turned (d.command (some .identity))
  unfold World.queryIdentity
  cases result with
  | error h =>
      refine ⟨_, _, _, .failed h (by simp) hinquiry,
        (Brings.log _ _).silently (hmade.silently ?_)⟩
      rw [← Run.bind_assoc]
      exact hbrings.bind_error
  | ok x =>
      rcases hinquiry.empty_or_accepts with rfl | hx
      · refine ⟨_, _, _, .dropped (by simp) hinquiry,
          (Brings.log _ _).silently (hmade.silently ?_)⟩
        rw [← Run.bind_assoc]
        exact hbrings.quietly (Brings.log _ _)
      · refine ⟨_, _, _, .answered x (by simp) hx hinquiry,
          (Brings.log _ _).silently (hmade.silently ?_)⟩
        rw [← Run.bind_assoc]
        exact hbrings.bind (brings_identify e x)

theorem exists_service_reset
    (d : Desk σ) :
    ∃ acts result e, V.Service d (some .reset) acts result e ∧
      V.Brings (World.resetAcceptor (answeredPort name V.peer) deliver) d acts result e := by
  have hmade :
      V.Brings (World.command fun c => c.codec.resetCommand) d []
        (.ok (d.command (some .reset))) d.turned :=
    Brings.command fun w hw => by rw [← hw]; rfl
  have hsend := brings_transmit name hdeliver d.turned (d.command (some .reset))
  unfold World.resetAcceptor
  cases ha : (d.turned.answer V.peer (.send (d.command (some .reset)))).failure? with
  | some h =>
      have hhalts := Answer.eq_halts_of_failure? ha
      rw [hhalts] at hsend
      exact ⟨_, _, _, .resetUnsent _ h rfl hhalts,
        (Brings.log _ _).silently (hmade.silently hsend.bind_error)⟩
  | none =>
      rw [Answer.completion_of_success ha] at hsend
      have hclose := brings_disconnect (V := V) name
        (d := d.turned.after V.peer (.send (d.command (some .reset))))
      cases hb : ((d.turned.after V.peer (.send (d.command (some .reset)))).answer V.peer
          .disconnect).failure? with
      | some h =>
          have hhalts := Answer.eq_halts_of_failure? hb
          rw [hhalts] at hclose
          refine ⟨_, _, _, .resetUnclosed _ _ h rfl rfl ha hhalts,
            (Brings.log _ _).silently (hmade.silently ?_)⟩
          rw [List.append_cons]
          exact hsend.bind hclose.bind_error
      | none =>
          rw [Answer.completion_of_success hb] at hclose
          have hopen := brings_connect (V := V) name
            (d := (d.turned.after V.peer (.send (d.command (some .reset)))).after V.peer
              .disconnect)
          refine ⟨_, _, _, .resetRested _ _ _ _ _ rfl rfl ha rfl hb rfl rfl,
            (Brings.log _ _).silently (hmade.silently ?_)⟩
          rw [List.append_cons]
          refine hsend.bind (hclose.bind (a := [_]) ((Brings.slept _).bind (a := [_]) ?_))
          generalize (Desk.answer V.peer .connect _).completion = r at hopen ⊢
          cases r with
          | error h =>
              exact hopen.bind_error
          | ok u =>
              exact hopen.quietly (Brings.log _ _)

theorem exists_service
    (d : Desk σ)
    (request : Option Request) :
    ∃ acts result e, V.Service d request acts result e ∧
      V.Brings (World.serve (answeredPort name V.peer) deliver request) d acts result e :=
  match request with
  | none => exists_service_poll name hdeliver d
  | some .identity => exists_service_identity name hdeliver d
  | some .reset => exists_service_reset name hdeliver d

theorem exists_opened
    (d : Desk σ)
    (request : Option Request) :
    ∃ acts result e, V.Opened d request acts result e ∧
      V.Brings
        (World.ensureOpen (answeredPort name V.peer) >>= fun _ =>
          World.serve (answeredPort name V.peer) deliver request)
        d acts result e := by
  have hlook :
      V.Brings (Run.look fun w => (answeredPort name V.peer).isOpen w.port) d []
        (.ok d.line.isOpen) d := by
    intro w hw hd
    subst hd
    exact ⟨rfl, rfl, rfl, rfl, hw⟩
  unfold World.ensureOpen
  cases hopen : d.line.isOpen with
  | true =>
      rw [hopen] at hlook
      obtain ⟨acts, result, e, hservice, hbrings⟩ := exists_service name hdeliver d request
      exact ⟨_, _, _, .ready hopen hservice,
        (hlook.silently (Brings.give ())).silently hbrings⟩
  | false =>
      rw [hopen] at hlook
      have hconnect := brings_connect (V := V) (d := d) name
      cases ha : (d.answer V.peer .connect).failure? with
      | some h =>
          have hhalts := Answer.eq_halts_of_failure? ha
          rw [hhalts] at hconnect
          exact ⟨_, _, _, .refused h hopen hhalts, (hlook.silently hconnect).bind_error⟩
      | none =>
          rw [Answer.completion_of_success ha] at hconnect
          obtain ⟨acts, result, e, hservice, hbrings⟩ :=
            exists_service name hdeliver (d.after V.peer .connect) request
          refine ⟨_, _, _, .opened _ hopen rfl ha hservice, ?_⟩
          exact Brings.bind (a := [_]) (hlook.silently hconnect) hbrings

omit hdeliver in
theorem brings_account_completed
    (d : Desk σ) :
    V.Brings (World.account deliver true) d [] (.ok ()) (d.accounted true) :=
  (Brings.record _).silently (Brings.give ())

theorem brings_account_failed
    (d : Desk σ) :
    V.Brings (World.account deliver false) d (V.alarmActs (d.accounted false))
      (alarmResult (d.accounted false)) (d.accounted false) := by
  refine (Brings.record _).silently ?_
  change V.Brings _ (d.accounted false) _ _ _
  generalize d.accounted false = e
  have hcount :
      V.Brings (World.ask fun c => c.record.failures) e [] (.ok e.record.failures) e :=
    Brings.ask fun w hw => by rw [← hw]; rfl
  have hlimit :
      V.Brings (World.ask fun c => c.policy.retryLimit) e [] (.ok e.policy.retryLimit) e :=
    Brings.ask fun w hw => by rw [← hw]; rfl
  refine hcount.silently (hlimit.silently ?_)
  have hreached := Brings.ofExcept (V := V) (d := e)
    (Policy.reached e.policy.retryLimit e.record.failures)
  unfold alarmActs alarmResult Desk.alarm
  cases hr : Policy.reached e.policy.retryLimit e.record.failures with
  | error f =>
      rw [hr] at hreached
      exact hreached.bind_error
  | ok reached =>
      rw [hr] at hreached
      refine hreached.silently ?_
      cases reached with
      | false =>
          exact Brings.give ()
      | true =>
          have hfire := brings_fire hdeliver (d := e) (.connectionFailure e.record.failures)
          refine (Brings.log _ _).silently ?_
          change V.Brings _ e (V.tell (.connectionFailure e.record.failures) ++ []) (.ok ()) e
          rw [List.append_nil]
          exact hfire

omit hdeliver in
/-- A failure that leaves the link up is noted. -/
theorem brings_recover_up
    {f : Fault}
    (hup : ∀ text, f ≠ .linkDown text)
    (d : Desk σ) :
    V.Brings (World.recover (answeredPort name V.peer) (.fault f)) d [] (.ok false) d := by
  cases f with
  | linkDown text =>
      exact absurd rfl (hup text)
  | _ =>
      exact (Brings.log _ _).silently (Brings.give false)

/-- Every exchange that is accounted for has a course. -/
theorem exists_course
    (d : Desk σ)
    (request : Option Request) :
    ∃ acts result e, V.Course d request acts result e ∧
      V.Brings
        (World.exchange (answeredPort name V.peer) deliver request >>=
          World.account deliver)
        d acts result e := by
  obtain ⟨acts, result, e, hopened, hserved⟩ := exists_opened name hdeliver d request
  unfold World.exchange
  rw [← Run.bind_assoc]
  cases result with
  | ok u =>
      have hgiven := (hserved.quietly (f := fun _ => Run.give true) (Brings.give true)).handle
        (f := World.recover (answeredPort name V.peer))
      exact ⟨_, _, _, .completed hopened, hgiven.quietly (brings_account_completed e)⟩
  | error h =>
      have hfailed := hserved.bind_error (f := fun _ => Run.give true)
      cases h with
      | exit status =>
          have hexited := hfailed.handle_error
            (f := World.recover (answeredPort name V.peer)) (Brings.halt _)
          rw [List.append_nil] at hexited
          exact ⟨_, _, _, .exited status hopened, hexited.bind_error⟩
      | fault f =>
          by_cases hdown : ∃ text, f = .linkDown text
          · obtain ⟨text, rfl⟩ := hdown
            have hclose := brings_disconnect (V := V) (d := e) name
            cases ha : (e.answer V.peer .disconnect).failure? with
            | some h =>
                have hhalts := Answer.eq_halts_of_failure? ha
                rw [hhalts] at hclose
                have hescaped := hfailed.handle_error
                  (f := World.recover (answeredPort name V.peer))
                  ((Brings.log _ _).silently hclose.bind_error)
                exact ⟨_, _, _, .escaped text h hopened hhalts, hescaped.bind_error⟩
            | none =>
                rw [Answer.completion_of_success ha] at hclose
                have hsevered := hfailed.handle_error
                  (f := World.recover (answeredPort name V.peer))
                  ((Brings.log _ _).silently (hclose.quietly (Brings.give false)))
                refine ⟨_, _, _, .severed text _ hopened rfl ha, ?_⟩
                rw [List.append_cons]
                exact hsevered.bind (brings_account_failed hdeliver _)
          · have hup : ∀ text, f ≠ .linkDown text := fun text h => hdown ⟨text, h⟩
            have hmissed := hfailed.handle_error
              (f := World.recover (answeredPort name V.peer)) (brings_recover_up name hup e)
            rw [List.append_nil] at hmissed
            exact ⟨_, _, _, .missed f hup hopened,
              hmissed.bind (brings_account_failed hdeliver e)⟩

/-- Every tick has a course. -/
theorem leaves_tick
    (w : World (AnsweredLine σ) τ)
    (hw : V.Orderly w) :
    ∃ acts result e, V.Course w.desk w.courier.control.mailbox.take.1 acts result e ∧
      V.Leaves (World.tick (answeredPort name V.peer) deliver) w acts result e := by
  obtain ⟨acts, result, e, hcourse, hbrings⟩ :=
    exists_course name hdeliver w.desk w.courier.control.mailbox.take.1
  refine ⟨acts, result, e, hcourse, ?_⟩
  have htaken :
      V.Leaves World.takeRequest w [] (.ok w.courier.control.mailbox.take.1) w.desk :=
    ⟨rfl, rfl, rfl, rfl, hw⟩
  exact htaken.bind (hbrings _ hw rfl)

/-- A poll on a caller is a tick and returns nothing. -/
theorem leaves_poll
    (w : World (AnsweredLine σ) τ)
    (hw : V.Orderly w) :
    ∃ acts result e, V.Course w.desk w.courier.control.mailbox.take.1 acts result e ∧
      V.Leaves (World.perform (answeredPort name V.peer) deliver .poll) w acts
        (result.map fun _ => .null) e := by
  obtain ⟨acts, result, e, hcourse, hleaves⟩ := leaves_tick name hdeliver w hw
  refine ⟨acts, result, e, hcourse, ?_⟩
  cases result with
  | error h =>
      exact hleaves.bind_error
  | ok u =>
      rw [← List.append_nil acts]
      exact hleaves.bind ⟨rfl, rfl, rfl, hleaves.desk_eq, hleaves.orderly⟩

end Exchange

end Vantage

end AcceptorHost
