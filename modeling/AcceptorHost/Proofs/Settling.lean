import AcceptorHost.Proofs.Custody
import AcceptorHost.Proofs.TickLaws

/-!
# The rest after a reset

A reset command is out once the library has taken and flushed it.  Then nobody is told of
anything until the object is closed, the acceptor has rested and the library was asked for
another object, and neither a failure nor a stop gets in between: whatever fails of the
closing is logged, and the opening asks for an object before anything else of it can fail.
So along every run over a serial port a reset command that is out is followed by all that
(`SerialPort.SettlesResets`), and no command comes before it.
-/

namespace AcceptorHost

/-! ## Reset commands -/

/-- Bytes are the reset command of some codec. -/
def Codec.IsReset (bs : List UInt8) : Prop := ∃ c : Codec, bs = c.resetCommand

/-- A command without the second byte of a reset is none. -/
theorem Codec.not_isReset_of_getElem
    {bs : List UInt8}
    {x : UInt8}
    (hbyte : bs[4]? = some x)
    (hx : x ≠ 0x7F) :
    ¬ IsReset bs := by
  rintro ⟨c, rfl⟩
  have hreset : c.resetCommand[4]? = some 0x7F := rfl
  rw [hreset] at hbyte
  exact hx (Option.some.inj hbyte).symm

/-- Only a reset is answered with a reset command. -/
theorem Courier.not_isReset_commandFor
    {request : Option Request}
    (hrequest : request ≠ some .reset)
    (c : Courier) :
    ¬ Codec.IsReset (Courier.commandFor request c) := by
  cases request with
  | none =>
      refine Codec.not_isReset_of_getElem (x := Codec.escrowMode ||| c.record.creditAction.bits)
        rfl ?_
      cases c.record.creditAction <;> decide
  | some r =>
      cases r with
      | reset =>
          exact absurd rfl hrequest
      | identity =>
          exact Codec.not_isReset_of_getElem (x := 0x00) rfl (by decide)

/-! ## Resets that settle -/

variable {σ : Type}

namespace SerialPort

/-- What a reset goes on with once its command is out: the object is closed, the acceptor rests,
and the library is asked for another object. -/
def Rests (p : SerialPort) (t : Trace) : Prop :=
  ∃ note more : Trace, (note = [] ∨ ∃ text, note = [.log Level.warning text])
    ∧ t = .serial .release :: note ++ .slept World.resetRest :: .serial p.acquiring :: more

/-- Every reset command that the library takes in a trace is flushed next, and if it is out then
the acceptor rests. -/
def SettlesResets (p : SerialPort) (lib : SerialLibrary σ) (t : Trace) (s : σ) : Prop :=
  ∀ (before : Trace) (bs : List UInt8) (after : Trace),
    t = before ++ .serial (.write bs) :: after → Codec.IsReset bs →
      (lib.respond (.write bs) (before.library lib s)).1.failure? = none →
        ∃ rest, after = .serial .drain :: rest
          ∧ ((lib.respond .drain
              (lib.respond (.write bs) (before.library lib s)).2).1.failure? = none → p.Rests rest)

variable {p : SerialPort} {lib : SerialLibrary σ}

theorem Rests.append
    {t : Trace}
    (h : p.Rests t)
    (u : Trace) :
    p.Rests (t ++ u) := by
  obtain ⟨note, more, hnote, rfl⟩ := h
  exact ⟨note, more ++ u, hnote, by simp⟩

/-- A trace in which no reset command is written has none to settle. -/
theorem settlesResets_of_none
    {t : Trace}
    (h : ∀ bs, .serial (.write bs) ∈ t → ¬ Codec.IsReset bs)
    (s : σ) :
    p.SettlesResets lib t s := by
  rintro before bs after rfl hreset
  exact absurd hreset (h bs (by simp))

/-- A reset command at the head of a trace settles as the rest of the trace goes. -/
theorem settlesResets_cons
    {bs : List UInt8}
    {t : Trace}
    {s : σ}
    (hnone : ∀ other, .serial (.write other) ∈ t → ¬ Codec.IsReset other)
    (hhead : (lib.respond (.write bs) s).1.failure? = none →
      ∃ rest, t = .serial .drain :: rest
        ∧ ((lib.respond .drain (lib.respond (.write bs) s).2).1.failure? = none → p.Rests rest)) :
    p.SettlesResets lib (.serial (.write bs) :: t) s := by
  intro before other after hsplit hreset htaken
  cases before with
  | nil =>
      obtain ⟨hwrite, rfl⟩ := List.cons.inj hsplit
      cases hwrite
      exact hhead htaken
  | cons e more =>
      obtain ⟨-, rfl⟩ := List.cons.inj hsplit
      exact absurd hreset (hnone other (by simp))

theorem SettlesResets.append
    {t u : Trace}
    {s : σ}
    (h : p.SettlesResets lib t s)
    (k : p.SettlesResets lib u (t.library lib s)) :
    p.SettlesResets lib (t ++ u) s := by
  intro before bs after hsplit hreset htaken
  rcases List.append_eq_append_iff.mp hsplit with ⟨first, rfl, hu⟩ | ⟨first, rfl, hafter⟩
  · rw [Trace.library_append] at htaken ⊢
    exact k first bs after hu hreset htaken
  · cases first with
    | nil =>
        rw [List.append_nil] at k
        exact k [] bs after hafter.symm hreset htaken
    | cons e first =>
        obtain ⟨rfl, rfl⟩ := List.cons.inj hafter
        obtain ⟨rest, rfl, hrests⟩ := h before bs first rfl hreset htaken
        exact ⟨rest ++ u, rfl, fun hout => (hrests hout).append u⟩

end SerialPort

/-- Along a run on a line the library answers, and resets settle. -/
def Passage.settling (p : SerialPort) (lib : SerialLibrary σ) : Passage (SerialLine σ) where
  holds l t r := t.library lib l.library = r.library ∧ p.SettlesResets lib t l.library
  stay l := ⟨rfl, SerialPort.settlesResets_of_none (fun _ h => by cases h) l.library⟩
  onward := by
    rintro l t r u q ⟨hlibrary, hsettles⟩ ⟨klibrary, ksettles⟩
    rw [← hlibrary] at ksettles
    exact ⟨by rw [Trace.library_append, hlibrary, klibrary], hsettles.append ksettles⟩

/-! ## The calls of a port -/

/-- A port that is closed, left alone and opened again. -/
def Port.renewing (port : Port σ) : Run σ Unit := do
  port.disconnect
  Run.emit (.slept World.resetRest)
  port.connect

/-- What a reset asks of a port. -/
def Port.resetting (port : Port σ) (bs : List UInt8) : Run σ Unit := do
  port.send bs
  port.renewing

namespace SerialPort

variable {p : SerialPort} {lib : SerialLibrary σ}

/-- A call that writes no reset command has none to settle. -/
theorem settling_ask
    {c : SerialCall}
    (hc : ∀ bs, c = .write bs → ¬ Codec.IsReset bs) :
    Run.Follows (.settling p lib) (SerialLine.ask lib c) := by
  refine fun l => ⟨SerialLine.answered_ask c l, settlesResets_of_none (fun bs hbs => ?_) l.library⟩
  have hmem : Entry.serial (.write bs) ∈ [Entry.serial c] := hbs
  cases List.mem_singleton.mp hmem
  exact hc bs rfl

theorem settling_emit
    {e : Entry}
    (he : e.isCall = false) :
    Run.Follows (.settling p lib) (Run.emit e) := by
  refine fun l => ⟨Entry.library_of_not_isCall lib he l.library,
    settlesResets_of_none (fun bs hbs => ?_) l.library⟩
  have hmem : Entry.serial (.write bs) ∈ [e] := hbs
  cases List.mem_singleton.mp hmem
  cases he

theorem settling_change
    {f : SerialLine σ → SerialLine σ}
    (hf : ∀ l, (f l).library = l.library) :
    Run.Follows (.settling p lib) (Run.change f) := fun l =>
  ⟨(hf l).symm, settlesResets_of_none (fun _ hbs => by cases hbs) l.library⟩

theorem settling_unplug
    (l : SerialLine σ) :
    (Passage.settling p lib).holds l [] l.unplug :=
  settling_change (f := SerialLine.unplug) (fun _ => rfl) l

/-- An opening begins with the call for an object and writes nothing. -/
theorem exists_trace_connect
    (hlib : lib.Plain)
    (p : SerialPort)
    (l : SerialLine σ) :
    ∃ more, (p.connect lib l).trace = .serial p.acquiring :: more
      ∧ ∀ bs, .serial (.write bs) ∉ more := by
  have hopens := opens_connect hlib p l
  generalize p.connect lib l = r at hopens
  cases hopens <;> exact ⟨_, rfl, by simp⟩

/-- A port that holds an object rests when it is renewed, however its closing and opening go. -/
theorem rests_renewing
    (hlib : lib.Plain)
    (p : SerialPort)
    (pulls : PortCall → σ → Bool)
    {l : SerialLine σ}
    (hheld : l.held.isSome = true) :
    p.Rests ((p.shakyPort lib pulls).renewing l).trace
      ∧ ∀ bs, .serial (.write bs) ∉ ((p.shakyPort lib pulls).renewing l).trace := by
  let port := p.shakyPort lib pulls
  obtain ⟨m, hm, -, hsome⟩ := SerialLine.exists_shaken pulls .disconnect (p.disconnect lib) l
  obtain ⟨note, hnote, hclosed⟩ := disconnect_of_held hlib p (hsome.trans hheld)
  have hdisconnect : port.disconnect l =
      ⟨.serial .release :: note, .ok (), (m.after lib .release).hold none⟩ := hm.trans hclosed
  let r := (m.after lib .release).hold none
  obtain ⟨n, hn, -, -⟩ := SerialLine.exists_shaken pulls .connect (p.connect lib) r
  obtain ⟨more, hmore, hquiet⟩ := exists_trace_connect hlib p n
  have hconnect : (port.connect r).trace = .serial p.acquiring :: more :=
    (congrArg Report.trace hn).trans hmore
  have hok : (port.disconnect l).result = .ok () := by rw [hdisconnect]
  have htrace : (port.renewing l).trace =
      .serial .release :: note ++ .slept World.resetRest :: .serial p.acquiring :: more := by
    have hrenewing : port.renewing l = _ :=
      Run.bind_of_ok (f := fun _ => Run.emit (.slept World.resetRest) >>= fun _ => port.connect) hok
    rw [hrenewing, hdisconnect, ← hconnect]
    rfl
  rw [htrace]
  refine ⟨⟨note, more, hnote, rfl⟩, fun bs => ?_⟩
  rcases hnote with rfl | ⟨text, rfl⟩ <;> simpa [acquiring] using hquiet bs

theorem answered_resetting
    (p : SerialPort)
    (pulls : PortCall → σ → Bool)
    (bs : List UInt8) :
    Run.Follows (.answered lib SerialLine.library) ((p.shakyPort lib pulls).resetting bs) := by
  have hshaken {α : Type} {c : PortCall} {x : Run (SerialLine σ) α}
      (hx : Run.Follows (.answered lib SerialLine.library) x) :
      Run.Follows (.answered lib SerialLine.library) (SerialLine.shaken pulls c x) :=
    SerialLine.follows_shaken (fun _ => rfl) hx
  exact (hshaken (p.answered_send bs)).bind fun _ => (hshaken p.answered_disconnect).bind fun _ =>
    (Run.answered_emit rfl).bind fun _ => hshaken p.answered_connect

/-- Whatever is sent for a reset and however it goes, resets settle. -/
theorem settling_resetting
    (hlib : lib.Plain)
    (p : SerialPort)
    (pulls : PortCall → σ → Bool)
    (bs : List UInt8) :
    Run.Follows (.settling p lib) ((p.shakyPort lib pulls).resetting bs) := by
  intro l
  refine ⟨answered_resetting p pulls bs l, ?_⟩
  let port := p.shakyPort lib pulls
  obtain ⟨m, hm, hlibrary, -⟩ := SerialLine.exists_shaken pulls (.send bs) (p.send lib bs) l
  have hsend : port.send bs l = p.send lib bs m := hm
  have hresetting {t : Trace} {h : Halt} {r : SerialLine σ}
      (hrun : port.send bs l = ⟨t, .error h, r⟩) : (port.resetting bs l).trace = t := by
    have herror : (port.send bs l).result = .error h := by rw [hrun]
    have hhalted : port.resetting bs l = _ := Run.bind_of_error herror
    rw [hhalted, hrun]
  have hsends := sends_send hlib p bs m
  generalize p.send lib bs m = r at hsend hsends
  rw [← hlibrary]
  -- Only bytes that are out are followed by the renewal; else the failed call ends the trace.
  cases hsends with
  | closed h hclosed =>
      rw [hresetting hsend]
      exact settlesResets_of_none (fun _ hbs => by cases hbs) m.library
  | untaken h f hopen huntaken =>
      rw [hresetting hsend]
      refine settlesResets_cons (fun _ hbs => by cases hbs) fun htaken => ?_
      change (m.dealt lib (.write bs)).answer.failure? = none at htaken
      rw [huntaken] at htaken
      cases htaken
  | stuck h f hopen htaken hstuck =>
      rw [hresetting hsend]
      refine settlesResets_cons (fun _ hbs => by simp at hbs) fun _ => ⟨[], rfl, fun hout => ?_⟩
      change ((m.after lib (.write bs)).dealt lib .drain).answer.failure? = none at hout
      rw [hstuck] at hout
      cases hout
  | out hopen htaken hout =>
      let after := (m.after lib (.write bs)).after lib .drain
      have hok : (port.send bs l).result = .ok () := by rw [hsend]
      have hgone : port.resetting bs l = _ := Run.bind_of_ok (f := fun _ => port.renewing) hok
      have htrace : (port.resetting bs l).trace =
          .serial (.write bs) :: .serial .drain :: (port.renewing after).trace := by
        rw [hgone, hsend]
        rfl
      have hheld : after.held.isSome = true := by
        obtain ⟨object, library⟩ := m
        cases object with
        | none =>
            cases hopen
        | some isOpen =>
            simp [after, SerialLine.after]
      obtain ⟨hrests, hquiet⟩ := rests_renewing hlib p pulls hheld
      rw [htrace]
      refine settlesResets_cons (fun other hother => absurd ?_ (hquiet other)) fun _ =>
        ⟨_, rfl, fun _ => hrests⟩
      simpa using hother

section Calls

variable (pulls : PortCall → σ → Bool)

theorem settling_connect :
    Run.Follows (.settling p lib) (p.shakyPort lib pulls).connect :=
  SerialLine.follows_shaken settling_unplug <| p.follows_connect
    (fun c hc => settling_ask fun bs hbs => by subst hbs; simp at hc)
    (fun _ => settling_change fun _ => rfl) fun _ he _ => settling_emit (Entry.isCall_of_isInert he)

theorem settling_disconnect :
    Run.Follows (.settling p lib) (p.shakyPort lib pulls).disconnect :=
  SerialLine.follows_shaken settling_unplug <| p.follows_disconnect
    (settling_ask fun _ hbs => by cases hbs) (settling_change fun _ => rfl)
    (settling_change fun _ => rfl) fun _ he _ => settling_emit (Entry.isCall_of_isInert he)

theorem settling_discard :
    Run.Follows (.settling p lib) (p.shakyPort lib pulls).discard :=
  SerialLine.follows_shaken settling_unplug <|
    p.follows_discard (settling_ask fun _ hbs => by cases hbs)

theorem settling_send
    {bs : List UInt8}
    (hbs : ¬ Codec.IsReset bs) :
    Run.Follows (.settling p lib) ((p.shakyPort lib pulls).send bs) := by
  refine SerialLine.follows_shaken settling_unplug <| p.follows_send fun c hc => settling_ask ?_
  rintro other rfl
  simp only [List.mem_cons, SerialCall.write.injEq, List.not_mem_nil, or_false, reduceCtorEq] at hc
  rwa [hc]

theorem settling_receive
    (n : Int)
    (timeout : Value) :
    Run.Follows (.settling p lib) ((p.shakyPort lib pulls).receive n timeout) :=
  SerialLine.follows_shaken settling_unplug <| p.follows_receive
    (fun _ => settling_ask fun _ hbs => by cases hbs) (settling_ask fun _ hbs => by cases hbs)

end Calls

end SerialPort

/-! ## Along runs of a courier -/

/-- A trace splits at a call on the library that it records. -/
theorem Trace.split_at_call
    {t : Trace}
    {i : Nat}
    {c : SerialCall}
    (h : (t[i]?.bind Entry.serialCall?) = some c) :
    t = t.take i ++ .serial c :: t.drop (i + 1) := by
  obtain ⟨e, he, hc⟩ := Option.bind_eq_some_iff.mp h
  obtain ⟨hi, hget⟩ := List.getElem?_eq_some_iff.mp he
  have hcall : e = .serial c := by
    cases e with
    | serial d =>
        exact congrArg Entry.serial (Option.some.inj hc)
    | _ =>
        cases hc
  rw [← hcall, ← hget, ← List.drop_eq_getElem_cons hi, List.take_append_drop]

namespace World

variable {lib : SerialLibrary σ}

/-- What a reset asks of the port stands together. -/
theorem resetAcceptor_eq
    {τ : Type}
    (port : Port σ)
    (deliver : Deliver σ τ) :
    resetAcceptor port deliver = (do
      Run.log Level.info "Reset command being sent"
      let bytes ← command (Courier.commandFor (some .reset))
      fire deliver (.traffic .sent (HexText.spaced bytes))
      onPort (port.resetting bytes)
      Run.log Level.info "Acceptor reset performed") := by
  simp only [Port.resetting, Port.renewing, onPort_bind, Run.bind_assoc, resetAcceptor, transmit]
  rfl

section Ticks

variable {τ : Type} (p : SerialPort) (pulls : PortCall → σ → Bool)
  {deliver : Deliver (SerialLine σ) τ}
  (hdeliver : ∀ l e, Run.Follows (Passage.settling p lib).onLine (deliver l e))
include hdeliver

theorem settling_admits :
    (Passage.settling p lib).onLine.Admits (p.shakyPort lib pulls) deliver where
  log _ _ _ w := SerialPort.settling_emit rfl w.port
  failed _ _ w := SerialPort.settling_emit rfl w.port
  slept _ w := SerialPort.settling_emit rfl w.port
  mailbox _ w := (Passage.settling p lib).stay w.port
  record _ w := (Passage.settling p lib).stay w.port
  connect w := SerialPort.settling_connect pulls w.port
  disconnect w := SerialPort.settling_disconnect pulls w.port
  discard w := SerialPort.settling_discard pulls w.port
  receive n timeout w := SerialPort.settling_receive pulls n timeout w.port
  delivered := hdeliver

/-- A command that is no reset is made and sent without one to settle. -/
theorem settling_inquire
    {request : Option Request}
    (hrequest : request ≠ some .reset) :
    Run.Follows (Passage.settling p lib).onLine
      (command (Courier.commandFor request) >>= transmit (p.shakyPort lib pulls) deliver) := by
  intro w
  let bytes := Courier.commandFor request w.courier
  have hcommand : (command (Courier.commandFor request) w).result = .ok bytes := rfl
  have hsend : Run.Follows (Passage.settling p lib).onLine
      (onPort ((p.shakyPort lib pulls).send bytes) : Run (World (SerialLine σ) τ) Unit) := fun v =>
    SerialPort.settling_send pulls (Courier.not_isReset_commandFor hrequest w.courier) v.port
  rw [Run.bind_of_ok hcommand]
  exact ((settling_admits p pulls hdeliver).fire _).bind (fun _ => hsend) _

/-- Whatever a tick is asked for, resets settle. -/
theorem settling_serve
    (hlib : lib.Plain)
    (request : Option Request) :
    Run.Follows (Passage.settling p lib).onLine
      (serve (p.shakyPort lib pulls) deliver request) := by
  have hadmits := settling_admits p pulls hdeliver
  cases request with
  | none =>
      exact hadmits.pollState (settling_inquire p pulls hdeliver (by simp))
  | some r =>
      cases r with
      | identity =>
          exact hadmits.queryIdentity (settling_inquire p pulls hdeliver (by simp))
      | reset =>
          have hcommand : Run.Follows (Passage.settling p lib).onLine
              (command (Courier.commandFor (some .reset)) :
                Run (World (SerialLine σ) τ) (List UInt8)) :=
            fun w => (Passage.settling p lib).stay w.port
          have hresetting (bytes : List UInt8) : Run.Follows (Passage.settling p lib).onLine
              (onPort ((p.shakyPort lib pulls).resetting bytes) :
                Run (World (SerialLine σ) τ) Unit) :=
            fun w => SerialPort.settling_resetting hlib p pulls bytes w.port
          change Run.Follows _ (resetAcceptor (p.shakyPort lib pulls) deliver)
          rw [resetAcceptor_eq]
          exact (hadmits.log _ _ rfl).bind fun _ => hcommand.bind fun bytes =>
            (hadmits.fire _).bind fun _ => (hresetting bytes).bind fun _ =>
              hadmits.log Level.info "Acceptor reset performed" rfl

end Ticks

theorem settling_step
    (hlib : lib.Plain)
    (p : SerialPort)
    (pulls : PortCall → σ → Bool)
    (op : Operation) :
    Run.Follows (Passage.settling p lib).onLine (step (p.shakyPort lib pulls) op) := by
  have hemit (e : Entry) (he : e.isCall = false) : Run.Follows (Passage.settling p lib).onLine
      (Run.emit e : Run (World (SerialLine σ) Audience) Unit) :=
    fun w => SerialPort.settling_emit he w.port
  have hconcludes : (Passage.settling p lib).onLine.Concludes (τ := Audience)
      (p.shakyPort lib pulls) :=
    Passage.concludes_of_emit (fun e he => hemit e (Entry.isCall_of_isInert he))
      (fun _ w => (Passage.settling p lib).stay w.port)
      fun w => SerialPort.settling_disconnect pulls w.port
  refine fun w => follows_performNested hconcludes hemit
    (fun w _ => (Passage.settling p lib).stay w.port)
    (fun _ w => (Passage.settling p lib).stay w.port) (fun hdeliver => ?_) _ op w
  exact (settling_admits p pulls hdeliver).routine.tick (settling_serve p pulls hdeliver hlib)

/-- In a row of operations over a serial port a reset command that the library has taken and
brought out is followed by the closing of the object, the rest and the call for another object
before the next command is written, with at most a warning in between. -/
theorem reset_settles
    (hlib : lib.Plain)
    (p : SerialPort)
    (pulls : PortCall → σ → Bool)
    {ops : List Operation}
    {w : World (SerialLine σ) Audience}
    {before mid rest : Trace}
    {bs next : List UInt8}
    (hrun : chronicle (p.shakyPort lib pulls) ops w =
      before ++ .serial (.write bs) :: mid ++ .serial (.write next) :: rest)
    (hreset : Codec.IsReset bs)
    (htaken : (lib.respond (.write bs) (before.library lib w.port.library)).1.failure? = none)
    (hout : (lib.respond .drain
      (lib.respond (.write bs) (before.library lib w.port.library)).2).1.failure? = none) :
    ∃ note more : Trace, (note = [] ∨ ∃ text, note = [.log Level.warning text])
      ∧ mid = .serial .drain :: .serial .release :: note
        ++ .slept resetRest :: .serial p.acquiring :: more := by
  have hsettles : p.SettlesResets lib (chronicle (p.shakyPort lib pulls) ops w) w.port.library :=
    (holds_chronicle (fun op _ => settling_step hlib p pulls op) w).2
  rw [List.append_assoc] at hrun
  obtain ⟨after, hafter, hrests⟩ := hsettles before bs _ hrun hreset htaken
  obtain ⟨note, more, hnote, rfl⟩ := hrests hout
  -- Nothing in the block is a write, so the next command comes after all of it.
  let block : Trace := .serial .drain :: .serial .release :: note
    ++ [.slept resetRest, .serial p.acquiring]
  have hquiet : .serial (.write next) ∉ block := by
    rcases hnote with rfl | ⟨text, rfl⟩ <;> simp [block, SerialPort.acquiring]
  have hblock : mid ++ .serial (.write next) :: rest = block ++ more := by
    refine hafter.trans ?_
    simp [block]
  rcases List.append_eq_append_iff.mp hblock with ⟨short, hlong, hnext⟩ | ⟨later, rfl, -⟩
  · cases short with
    | nil =>
        refine ⟨note, [], hnote, ?_⟩
        rw [List.append_nil] at hlong
        exact hlong.symm
    | cons e tail =>
        obtain ⟨rfl, -⟩ := List.cons.inj hnext
        exact absurd (by rw [hlong]; simp) hquiet
  · exact ⟨note, later, hnote, by simp [block]⟩

/-- The rest is half a second. -/
example : resetRest = .finite false (2 ^ 52) (-53) := by decide +kernel

/-- It is so of a reset after which the closing fails, the opening is refused in its tick and
fails in the next, and the third tick comes to a command. -/
theorem reset_settles_refused :
    let p : SerialPort := ⟨.text "dev0", .int 9600, .float SerialPort.usualTimeout⟩
    let port := p.shakyPort .ofAnswers fun _ _ => false
    let fails (kind : DeviceFault) : Answer × Bool := (.halts (.fault (.device kind "gone")), false)
    let w := unopened
      (List.replicate 5 (.nothing, false) ++ [fails .serial, fails .serial, fails .system]) []
    let t := chronicle port [.request .reset, .poll, .poll, .poll] w
    ∃ note more : Trace, (note = [] ∨ ∃ text, note = [.log Level.warning text])
      ∧ (t.drop 7).take 13 = .serial .drain :: .serial .release :: note
        ++ .slept resetRest :: .serial p.acquiring :: more := by
  intro p port fails w t
  have hfirst : (t[6]?.bind Entry.serialCall?) = some (.write Codec.usual.resetCommand) := by
    decide +kernel
  have hnext : ((t.drop 7)[13]?.bind Entry.serialCall?) =
      some (.write (Codec.usual.turned.normalCommand .none)) := by decide +kernel
  have houtcome : let s := Trace.library .ofAnswers (t.take 6) w.port.library
      (SerialLibrary.ofAnswers.respond (.write Codec.usual.resetCommand) s).1.failure? = none
        ∧ (SerialLibrary.ofAnswers.respond .drain (SerialLibrary.ofAnswers.respond
          (.write Codec.usual.resetCommand) s).2).1.failure? = none := by decide +kernel
  have hsplit := Trace.split_at_call hfirst
  rw [Trace.split_at_call hnext, ← List.cons_append, ← List.append_assoc] at hsplit
  have hrun : chronicle port [.request .reset, .poll, .poll, .poll] w = t := rfl
  clear_value t w
  exact reset_settles SerialLibrary.ofAnswers_plain p (fun _ _ => false) (hrun.trans hsplit)
    ⟨Codec.usual, rfl⟩ houtcome.1 houtcome.2

end World

end AcceptorHost
