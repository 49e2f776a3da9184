import AcceptorHost.Proofs.Alarms
import Mathlib.Data.List.Induction

/-!
# What is known of the device

The model, the firmware and the serial number of the acceptor are known from frames alone: the
first two from the frames that answer normal commands, the third from those that answer the
query for it and are long enough.  A tick reads one frame at most, so what is known after a row
of operations is what the frames of its ticks say, one after another (`identity_reached`), and
of each value the last frame that bears on it decides.
-/

namespace AcceptorHost

/-- What is known of the device. -/
structure Identity where
  model : Option UInt8
  firmware : Option UInt8
  serialNumber : Option String
  deriving DecidableEq, Repr

/-- What a record knows of the device. -/
def Record.identity (r : Record) : Identity := ⟨r.model, r.firmware, r.serialNumber⟩

theorem Record.modelText_eq_unknown_iff
    (r : Record) :
    r.modelText = unknownText ↔ r.model = none := by
  unfold modelText
  cases r.model with
  | none =>
      simp
  | some b =>
      -- a text of one byte has two characters
      have hne : HexText.spaced [b] ≠ unknownText := fun h => by
        have hlength := congrArg (fun s => s.toList.length) h
        simp [HexText.spaced, HexText.spacedChars, HexText.upperPair, unknownText] at hlength
      simp [hne]

theorem Record.firmwareText_eq_unknown_iff
    (r : Record) :
    r.firmwareText = unknownText ↔ r.firmware = none := by
  unfold firmwareText
  cases r.firmware with
  | none =>
      simp
  | some b =>
      have hne : "1." ++ HexText.compact [b] ≠ unknownText := fun h => by
        have hfirst := congrArg (fun s => s.toList.head?) h
        simp [unknownText] at hfirst
      simp [hne]

/-- A frame with the request that it was read for. -/
abbrev Answered := Option Request × List UInt8

/-- The frames among answers that were read for a request. -/
def answersTo (request : Option Request) (h : List Answered) : List (List UInt8) :=
  h.filterMap fun p => if p.1 = request then some p.2 else none

theorem answersTo_eq_nil
    {request : Option Request}
    {h : List Answered}
    (hothers : ∀ p ∈ h, p.1 ≠ request) :
    answersTo request h = [] := by
  rw [answersTo, List.filterMap_eq_nil_iff]
  intro p hp
  rw [if_neg (hothers p hp)]

/-- A frame is long enough to hold a serial number. -/
def Frame.holdsSerial (x : List UInt8) : Bool :=
  decide (World.serialNumberOffset + SerialNumber.size ≤ x.length)

/-- The bytes of a frame that hold the serial number. -/
def Frame.serialPart (x : List UInt8) : List UInt8 :=
  (x.drop World.serialNumberOffset).take SerialNumber.size

/-- The serial number that a frame holds. -/
def Frame.serialText? (unsigned : Bool) (x : List UInt8) : Option String :=
  (SerialNumber.ofBytes unsigned (serialPart x)).toOption

theorem Frame.serialText?_of_holds
    (unsigned : Bool)
    {x : List UInt8}
    (h : holdsSerial x = true) :
    ∃ text, SerialNumber.ofBytes unsigned (serialPart x) = .ok text
      ∧ serialText? unsigned x = some text := by
  have hlength : (serialPart x).length = SerialNumber.size := by
    simp only [holdsSerial, decide_eq_true_eq] at h
    simp only [serialPart, List.length_take, List.length_drop]
    omega
  obtain ⟨text, htext⟩ := SerialNumber.ofBytes_of_length_eq unsigned hlength
  exact ⟨text, htext, by rw [serialText?, htext]; rfl⟩

theorem Frame.serialText?_of_short
    (unsigned : Bool)
    {x : List UInt8}
    (h : holdsSerial x = false) :
    serialText? unsigned x = none := by
  have hlength : (serialPart x).length ≠ SerialNumber.size := by
    simp only [holdsSerial, decide_eq_false_iff_not] at h
    simp only [serialPart, List.length_take, List.length_drop, SerialNumber.size] at h ⊢
    omega
  obtain ⟨f, hf⟩ := SerialNumber.ofBytes_of_length_ne unsigned hlength
  rw [serialText?, hf]
  rfl

namespace Identity

/-- Nothing is known. -/
def unknown : Identity := ⟨none, none, none⟩

/-- What is known after a frame that was read for a request. -/
def after (unsigned : Bool) (i : Identity) : Answered → Identity
  | (none, x) =>
      { i with model := some (Reply.dataByte x 3), firmware := some (Reply.dataByte x 4) }
  | (some .identity, x) =>
      { i with serialNumber := (Frame.serialText? unsigned x).or i.serialNumber }
  | (some .reset, _) => i

variable (unsigned : Bool) (i : Identity) (h : List Answered)

/-- The last frame that answers a normal command decides on the model and the firmware. -/
theorem model_firmware_foldl :
    let last := (answersTo none h).getLast?
    (h.foldl (after unsigned) i).model = (last.map (Reply.dataByte · 3)).or i.model
      ∧ (h.foldl (after unsigned) i).firmware = (last.map (Reply.dataByte · 4)).or i.firmware := by
  induction h using List.reverseRecOn with
  | nil =>
      exact ⟨rfl, rfl⟩
  | append_singleton front p ih =>
      obtain ⟨request, x⟩ := p
      rcases request with _ | _ | _
      · simp [answersTo, after]
      · simpa [answersTo, after] using ih
      · simpa [answersTo, after] using ih

/-- The last frame that is long enough decides on the serial number. -/
theorem serialNumber_foldl :
    (h.foldl (after unsigned) i).serialNumber =
      (((answersTo (some .identity) h).filter Frame.holdsSerial).getLast?.bind
        (Frame.serialText? unsigned)).or i.serialNumber := by
  induction h using List.reverseRecOn with
  | nil =>
      rfl
  | append_singleton front p ih =>
      obtain ⟨request, x⟩ := p
      rcases request with _ | _ | _
      · simpa [answersTo, after] using ih
      · cases hlong : Frame.holdsSerial x with
        | true =>
            obtain ⟨text, -, htext⟩ := Frame.serialText?_of_holds unsigned hlong
            simp [answersTo, after, hlong, htext]
        | false =>
            have hnone := Frame.serialText?_of_short unsigned hlong
            simpa [answersTo, after, hlong, hnone] using ih
      · simpa [answersTo, after] using ih

/-- What is known of the device is never forgotten. -/
theorem isSome_foldl :
    let known := h.foldl (after unsigned) i
    (i.model ≠ none → known.model ≠ none) ∧ (i.firmware ≠ none → known.firmware ≠ none)
      ∧ (i.serialNumber ≠ none → known.serialNumber ≠ none) := by
  intro known
  obtain ⟨hmodel, hfirmware⟩ := model_firmware_foldl unsigned i h
  have hserial := serialNumber_foldl unsigned i h
  refine ⟨fun hi => ?_, fun hi => ?_, fun hi => ?_⟩
  · simp [known, hmodel, hi]
  · simp [known, hfirmware, hi]
  · simp [known, hserial, hi]

end Identity

/-! ## Ticks -/

namespace Act

/-- The frames that are read in acts. -/
def frames (acts : List Act) : List (List UInt8) := (replies acts).filter Frame.accepts

@[simp] theorem frames_append
    (a b : List Act) :
    frames (a ++ b) = frames a ++ frames b := by
  simp [frames]

end Act

namespace Vantage

variable {σ τ : Type} {V : Vantage σ τ} {d e : Desk σ} {acts : List Act}

/-- The reading of a reply reads the frame that it gives, or none. -/
theorem Collection.frames_eq
    {result : Except Halt (List UInt8)}
    (h : V.Collection d acts result e) :
    Act.frames acts = result.toOption.toList.filter Frame.accepts := by
  cases h with
  | failed h ha =>
      rfl
  | blank ha =>
      rfl
  | accepted x ha hx =>
      change (x :: Act.replies (V.tell _)).filter _ = _
      rw [replies_tell]
      rfl
  | dropped x a ha hx hb hok =>
      have hempty : Frame.accepts [] = false := rfl
      change (x :: Act.replies (V.tell _ ++ [.called .discard a])).filter _ = _
      simp [Act.replies_called, hx, hempty, Except.toOption]
  | stuck x h ha hx hb =>
      change (x :: Act.replies (V.tell _ ++ [.called .discard _])).filter _ = _
      simp [Act.replies_called, hx, Except.toOption]

theorem Inquiry.frames_eq
    {bytes : List UInt8}
    {result : Except Halt (List UInt8)}
    (h : V.Inquiry bytes d acts result e) :
    Act.frames acts = result.toOption.toList.filter Frame.accepts := by
  cases h with
  | unsent h ha =>
      simp [Act.frames, Act.replies_called, Except.toOption]
  | sent a ha hok hread =>
      simpa [Act.frames, Act.replies_called] using hread.frames_eq

/-- What a desk learns from a frame is what the frame says of the device. -/
theorem identity_learned
    (d : Desk σ)
    (x : List UInt8)
    (request : Option Request) :
    (d.learned x request).record.identity =
      d.record.identity.after d.policy.unsignedSerial (request, x) := by
  rcases request with _ | _ | _
  · rfl
  · cases hread : SerialNumber.ofBytes d.policy.unsignedSerial
        ((x.drop World.serialNumberOffset).take SerialNumber.size) <;>
      simp [Desk.learned, Desk.identified, Identity.after, Frame.serialText?, Frame.serialPart,
        Record.identity, hread, Except.toOption]
  · rfl

/-- After acts as much is known of the device as their frames say that were read for a request. -/
def Informs (d : Desk σ) (request : Option Request) (acts : List Act) (e : Desk σ) : Prop :=
  e.record.identity =
    ((Act.frames acts).map fun x => (request, x)).foldl
      (Identity.after d.policy.unsignedSerial) d.record.identity

/-- Acts without a frame inform if the record stays. -/
theorem informs_of_record_eq
    {request : Option Request}
    (hframes : Act.frames acts = [])
    (hrecord : e.record = d.record) :
    Informs d request acts e := by
  unfold Informs
  rw [hframes, hrecord]
  rfl

/-- Acts without a frame add nothing to what informs. -/
theorem Informs.append
    {request : Option Request}
    {more : List Act}
    {k : Desk σ}
    (h : Informs d request acts e)
    (hframes : Act.frames more = [])
    (hrecord : k.record.identity = e.record.identity) :
    Informs d request (acts ++ more) k := by
  unfold Informs
  rw [Act.frames_append, hframes, List.append_nil, hrecord]
  exact h

theorem Service.informs
    {request : Option Request}
    {result : Except Halt Unit}
    (h : V.Service d request acts result e) :
    Informs d request acts e := by
  cases h with
  | failed h hrequest hask =>
      exact informs_of_record_eq hask.frames_eq hask.record_eq
  | dropped hrequest hask =>
      exact informs_of_record_eq hask.frames_eq hask.record_eq
  | @answered request acts k x hrequest hx hask =>
      have hframes : Act.frames (acts ++ (k.news x request).flatMap V.tell) = [x] := by
        rw [Act.frames, Act.replies_append, replies_flatMap_tell, List.append_nil,
          hask.replies_of_accepts hx, List.filter_cons_of_pos hx, List.filter_nil]
      have hpolicy : k.policy = d.policy :=
        congrArg Standing.policy (hask.standing_eq.trans d.standing_turned)
      unfold Informs
      rw [hframes, identity_learned, hpolicy, hask.record_eq]
      rfl
  | resetUnsent bytes h hbytes ha =>
      exact informs_of_record_eq (by simp [Act.frames, Act.replies_called]) rfl
  | resetUnclosed bytes a h hbytes ha hok hb =>
      exact informs_of_record_eq (by simp [Act.frames, Act.replies_called]) rfl
  | resetRested bytes a b c k hbytes ha hok hb hokb he hc =>
      subst he
      have hrest : Act.replies [.slept World.resetRest, .called .connect c] = [] :=
        Act.replies_called (c := .connect) (by simp) c []
      exact informs_of_record_eq (by simp [Act.frames, Act.replies_called, hrest]) rfl

theorem Opened.informs
    {request : Option Request}
    {result : Except Halt Unit}
    (h : V.Opened d request acts result e) :
    Informs d request acts e := by
  cases h with
  | ready hopen hserve =>
      exact hserve.informs
  | refused h hopen ha =>
      exact informs_of_record_eq rfl rfl
  | opened a hopen ha hok hserve =>
      exact hserve.informs

/-- After a tick as much is known of the device as the frame says that it read. -/
theorem Course.informs
    {request : Option Request}
    {result : Except Halt Unit}
    (h : V.Course d request acts result e) :
    Informs d request acts e := by
  have hnone (k : Desk σ) : Act.frames (V.alarmActs k) = [] := by simp [Act.frames]
  cases h with
  | completed hserve =>
      exact hserve.informs
  | missed f hup hserve =>
      exact hserve.informs.append (hnone _) rfl
  | severed text a hserve ha hok =>
      refine hserve.informs.append ?_ rfl
      exact hnone _
  | escaped text h hserve ha =>
      exact hserve.informs.append rfl rfl
  | exited status hserve =>
      exact hserve.informs

end Vantage

/-! ## Rows of operations -/

namespace World

variable {σ : Type} (name : Value) (peer : Peer σ)

/-- The frames that a tick reads, with the request that it serves. -/
def answeredIn (u : World (AnsweredLine σ) Audience) : List Answered :=
  (((tickAmong (answeredPort name peer) u).trace.replies peer u.port.party).filter
    Frame.accepts).map fun x => (u.courier.control.mailbox.take.1, x)

/-- The frames that the ticks of a row of operations read, with the requests that they serve. -/
def answered (ops : List Operation) (w : World (AnsweredLine σ) Audience) : List Answered :=
  (tickStarts (answeredPort name peer) ops w).flatMap (answeredIn name peer)

variable {name peer}

/-- After a tick as much is known of the device as the frame says that it read. -/
theorem identity_tick
    {w : World (AnsweredLine σ) Audience}
    (hw : w.audience.Plans Reaction.isTame) :
    (tickAmong (answeredPort name peer) w).state.courier.record.identity =
      (answeredIn name peer w).foldl (Identity.after w.courier.policy.unsignedSerial)
        w.courier.record.identity := by
  obtain ⟨answers, acts, e, hcourse, -, hrecord, -, hshows, -⟩ :=
    exists_course_tick name (placid_hear name w.audience.depth) (patient_of_tame hw)
  have hreplies : Trace.replies peer (tickAmong (answeredPort name peer) w).trace _ = _ :=
    replies_of_shows hshows
  have hidentity : e.record.identity = _ := hcourse.informs
  unfold answeredIn
  rw [hreplies]
  exact (congrArg Record.identity hrecord).trans hidentity

/-- A normal tick leaves the serial number as it is, every other one the model and firmware. -/
theorem tick_leaves_other_values
    {w : World (AnsweredLine σ) Audience}
    (hw : w.audience.Plans Reaction.isTame) :
    let request := w.courier.control.mailbox.take.1
    let after := (tickAmong (answeredPort name peer) w).state.courier.record
    (request = none → after.serialNumber = w.courier.record.serialNumber)
      ∧ (request ≠ none → after.model = w.courier.record.model
        ∧ after.firmware = w.courier.record.firmware) := by
  intro request after
  have hserved : ∀ p ∈ answeredIn name peer w, p.1 = request := by
    intro p hp
    obtain ⟨x, -, rfl⟩ := List.mem_map.mp hp
    rfl
  have htick : after.identity = _ := identity_tick hw
  constructor
  · intro hnone
    have hserial := Identity.serialNumber_foldl w.courier.policy.unsignedSerial
      w.courier.record.identity (answeredIn name peer w)
    rw [← htick, answersTo_eq_nil fun p hp => by simp [hserved p hp, hnone]] at hserial
    exact hserial
  · intro hsome
    have hvalues := Identity.model_firmware_foldl w.courier.policy.unsignedSerial
      w.courier.record.identity (answeredIn name peer w)
    rw [← htick, answersTo_eq_nil fun p hp => by simp [hserved p hp, hsome]] at hvalues
    exact hvalues

/-- After a row of ticks as much is known of the device as their frames say. -/
theorem Row.identity_eq
    {w u : World (AnsweredLine σ) Audience}
    {starts : List (World (AnsweredLine σ) Audience)}
    {t : Trace}
    (h : Row name peer w starts t u) :
    u.courier.record.identity =
      (starts.flatMap (answeredIn name peer)).foldl
        (Identity.after w.courier.policy.unsignedSerial) w.courier.record.identity := by
  induction h with
  | last haside =>
      exact congrArg Record.identity haside.1.record_eq
  | @tick w v u starts s t haside htame hrest ih =>
      have hrecord := congrArg Record.identity haside.1.record_eq
      have hpolicy := haside.1.policy_eq
      rw [ih, policy_tick htame, identity_tick htame, hpolicy, hrecord, List.flatMap_cons,
        List.foldl_append]

/-- After a row of operations as much is known of the device as the frames of its ticks say. -/
theorem identity_reached
    (ops : List Operation)
    {w : World (AnsweredLine σ) Audience}
    (hw : w.audience.Plans Reaction.isTame) :
    (reached (answeredPort name peer) ops w).courier.record.identity =
      (answered name peer ops w).foldl (Identity.after w.courier.policy.unsignedSerial)
        w.courier.record.identity :=
  (row_of_operations name peer ops hw).identity_eq

variable (name peer) in
/--
What is reported of the device is what the last frames say that bear on it: the model and the
firmware those of the last frame that a normal tick read, and unknown if there was none; the
serial number that of the last frame that a tick for it read and that is long enough.  A normal
tick leaves the serial number as it is, every other tick the model and the firmware, and what
is known at some point is known at every later one.
-/
theorem identity_shows_last_frames
    (ops : List Operation)
    {w : World (AnsweredLine σ) Audience}
    (hfresh : w.courier.record.identity = .unknown)
    (hplans : w.audience.Plans Reaction.isTame) :
    let port := answeredPort name peer
    let unsigned := w.courier.policy.unsignedSerial
    let r := (reached port ops w).courier.record
    let normal := answersTo none (answered name peer ops w)
    let serial := (answersTo (some .identity) (answered name peer ops w)).filter Frame.holdsSerial
    (r.modelText = Record.unknownText ↔ normal = [])
      ∧ (r.firmwareText = Record.unknownText ↔ normal = [])
      ∧ (∀ x ∈ normal.getLast?, r.modelText = HexText.spaced [Reply.dataByte x 3]
        ∧ r.firmwareText = "1." ++ HexText.compact [Reply.dataByte x 4])
      ∧ (r.serialNumber = none ↔ serial = [])
      ∧ (∀ x ∈ serial.getLast?, ∃ text,
        SerialNumber.ofBytes unsigned (Frame.serialPart x) = .ok text ∧ r.serialNumber = some text)
      ∧ (∀ u ∈ tickStarts port ops w,
        let request := u.courier.control.mailbox.take.1
        let after := (tickAmong port u).state.courier.record
        (request = none → after.serialNumber = u.courier.record.serialNumber)
          ∧ (request ≠ none → after.model = u.courier.record.model
            ∧ after.firmware = u.courier.record.firmware))
      ∧ ∀ before later, ops = before ++ later →
        let earlier := (reached port before w).courier.record
        (earlier.modelText ≠ Record.unknownText → r.modelText ≠ Record.unknownText)
          ∧ (earlier.firmwareText ≠ Record.unknownText → r.firmwareText ≠ Record.unknownText)
          ∧ (earlier.serialNumber ≠ none → r.serialNumber ≠ none) := by
  intro port unsigned r normal serial
  have hidentity : r.identity = (answered name peer ops w).foldl (Identity.after unsigned)
      .unknown := by
    rw [← hfresh]
    exact identity_reached ops hplans
  obtain ⟨hmodel, hfirmware⟩ :=
    Identity.model_firmware_foldl unsigned .unknown (answered name peer ops w)
  have hserial := Identity.serialNumber_foldl unsigned .unknown (answered name peer ops w)
  rw [← hidentity] at hmodel hfirmware hserial
  change r.model = (normal.getLast?.map _).or none at hmodel
  change r.firmware = (normal.getLast?.map _).or none at hfirmware
  change r.serialNumber = (serial.getLast?.bind _).or none at hserial
  rw [Option.or_none] at hmodel hfirmware hserial
  have hlast {x : List UInt8} (hx : x ∈ serial.getLast?) : ∃ text,
      SerialNumber.ofBytes unsigned (Frame.serialPart x) = .ok text
        ∧ Frame.serialText? unsigned x = some text :=
    Frame.serialText?_of_holds unsigned (List.mem_filter.mp (List.mem_of_mem_getLast? hx)).2
  refine ⟨?_, ?_, ?_, ?_, ?_, ?_, ?_⟩
  · rw [Record.modelText_eq_unknown_iff, hmodel]
    simp
  · rw [Record.firmwareText_eq_unknown_iff, hfirmware]
    simp
  · intro x hx
    rw [Option.mem_def] at hx
    rw [hx] at hmodel hfirmware
    simp only [Option.map_some] at hmodel hfirmware
    exact ⟨by rw [Record.modelText, hmodel], by rw [Record.firmwareText, hfirmware]⟩
  · cases hx : serial.getLast? with
    | none =>
        rw [hserial, hx]
        simpa using List.getLast?_eq_none_iff.mp hx
    | some x =>
        obtain ⟨text, -, htext⟩ := hlast hx
        have hne : serial ≠ [] := by
          rintro hnil
          rw [hnil] at hx
          cases hx
        simp [hserial, hx, htext, hne]
  · intro x hx
    obtain ⟨text, hread, htext⟩ := hlast hx
    rw [Option.mem_def] at hx
    exact ⟨text, hread, by rw [hserial, hx, Option.bind_some, htext]⟩
  · intro u hu request after
    exact tick_leaves_other_values (plans_tickStarts ops hplans u hu)
  · rintro before later rfl earlier
    have hfrom : r.identity = _ := congrArg (fun v => v.courier.record.identity)
      (reached_append port before later w)
    rw [identity_reached later (plans_reached port before hplans)] at hfrom
    have hkept := Identity.isSome_foldl (reached port before w).courier.policy.unsignedSerial
      earlier.identity (answered name peer later (reached port before w))
    rw [← hfrom] at hkept
    simp only [ne_eq, Record.modelText_eq_unknown_iff, Record.firmwareText_eq_unknown_iff]
    exact hkept

/-- After a normal reply, a serial number, a restart and a reply that never comes, both replies
are still shown. -/
theorem identity_shows_last_frames_restarted :
    let reply := Frame.encode Frame.replyType [0x01, 0x10, 0x00, 0x4A, 0x0B, 0x00]
    let number := Frame.encode Frame.auxiliaryType [0x12, 0x34, 0x56, 0x78, 0x09, 0x00]
    let outcomes : List (Except Fault (List UInt8)) :=
      [.ok [], .ok [], .ok reply, .ok [], .ok number, .ok [], .ok [], .ok [],
        .error (.noReply "late")]
    let ops : List Operation :=
      [.start, .pass, .request .identity, .pass, .stop false, .start, .pass]
    let w := unused outcomes [⟨⟨"rec", .null⟩, [[.halts (.fault .wrongType)]]⟩]
    let r := (reached (answeredPort .null (.steady Responder.ofOutcomes)) ops w).courier.record
    r.modelText = "4A" ∧ r.firmwareText = "1.0b" ∧ r.serialNumber = some "123456789"
      ∧ r.failures = 1 := by
  intro reply number outcomes ops w r
  have hplans : w.audience.Plans Reaction.isTame := by decide
  obtain ⟨-, -, hnormal, -, hserial, -⟩ :=
    identity_shows_last_frames .null (.steady Responder.ofOutcomes) ops rfl hplans
  obtain ⟨hmodel, hfirmware⟩ := hnormal reply (by decide +kernel)
  obtain ⟨text, hread, hnumber⟩ := hserial number (by decide +kernel)
  have htext : SerialNumber.ofBytes false (Frame.serialPart number) = .ok "123456789" := by
    decide +kernel
  cases hread.symm.trans htext
  exact ⟨hmodel.trans (by decide +kernel), hfirmware.trans (by decide +kernel), hnumber,
    by decide +kernel⟩

end World

end AcceptorHost
