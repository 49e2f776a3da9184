import AcceptorHost.Proofs.Custody
import AcceptorHost.Proofs.Deliveries
import AcceptorHost.Proofs.Escrow
import AcceptorHost.Proofs.Frames
import AcceptorHost.Proofs.Identity
import AcceptorHost.Proofs.NestedOperations
import AcceptorHost.Proofs.Translation

/-!
# Only whole replies are interpreted

A serial port gives its caller a reply of exactly the size that is asked for, or fails.  What
is no frame is dropped, and a frame of that size is whole: it declares its size and has all of
its data bytes.  So of all that the serial library returns to a reading only whole replies
reach the record and the listeners (`Heeds`), whatever the library answers, and a query for the
serial number finds its reply too short only if that is empty.

What is interpreted was read before.  Along a piece of a run that reads nothing this cannot be
seen, so the passage `heeding` names the replies that may be interpreted, and says of what is
read that it is among them.
-/

namespace AcceptorHost

/-! ## Whole replies -/

/-- A frame of the size of a reply, which it declares, with all of its data bytes. -/
structure Frame.Whole (x : List UInt8) : Prop where
  accepts : Frame.accepts x = true
  length_eq : x.length = 11
  declared : x[1]? = some 0x0B
  data_length : (Frame.payloadPart x).length = 6
  data : ∀ i < 6, (Frame.payloadPart x)[i]? = some (Reply.dataByte x i)

/-- A frame of the size of a reply is whole. -/
theorem Frame.whole_of_accepts
    {x : List UInt8}
    (haccepts : accepts x = true)
    (hlength : x.length = replySize) :
    Whole x := by
  have hdata : (payloadPart x).length = 6 := by
    simp [payloadPart, hlength, replySize]
  refine ⟨haccepts, hlength, ?_, hdata, fun i hi => ?_⟩
  · have hdeclared := declared_of_accepts haccepts
    obtain ⟨size, hsize, hvalue⟩ := Option.map_eq_some_iff.mp hdeclared
    have heleven : size.toNat = (0x0B : UInt8).toNat := hvalue.trans hlength
    rw [hsize, UInt8.toNat_inj.mp heleven]
  · rw [← hdata] at hi
    simp [Reply.dataByte, List.getD_eq_getElem?_getD, List.getElem?_eq_getElem hi]

/-- A frame gives an event to tell, with some names for bills. -/
def Frame.Tells (x : List UInt8) (e : Event) : Prop :=
  ∃ c : Codec, e ∈ (Reply.decode c x).events.map (World.eventOf (Reply.decode c x))

/-- An event tells what the acceptor has reported. -/
def Event.isNews : Event → Bool
  | .credit _ _ | .escrowed _ _ | .device _ _ => true
  | _ => false

/-- A record comes to be from another by accounting and by what replies of some kind say. -/
inductive Record.Learns (F : List UInt8 → Prop) (r : Record) : Record → Prop
  | same :
      Learns F r r
  | accounted
      {s : Record}
      (healthy : Bool)
      (failures : Nat)
      (h : Learns F r s) :
      Learns F r { s with healthy := healthy, failures := failures }
  | polled
      {s : Record}
      (c : Codec)
      (x : List UInt8)
      (hx : F x)
      (h : Learns F r s) :
      Learns F r (s.updated (Reply.decode c x))
  | identified
      {s : Record}
      (unsigned : Bool)
      (x : List UInt8)
      (text : String)
      (hx : F x)
      (htext : SerialNumber.ofBytes unsigned (Frame.serialPart x) = .ok text)
      (h : Learns F r s) :
      Learns F r { s with serialNumber := some text }

theorem Record.Learns.trans
    {F : List UInt8 → Prop}
    {q r s : Record}
    (h : Learns F q r)
    (k : Learns F r s) :
    Learns F q s := by
  induction k with
  | same =>
      exact h
  | accounted healthy failures hrest ih =>
      exact .accounted healthy failures ih
  | polled c x hx hrest ih =>
      exact .polled c x hx ih
  | identified unsigned x text hx htext hrest ih =>
      exact .identified unsigned x text hx htext ih

/-! ## What is read of the library -/

/-- The bytes that the library returns to a reading. -/
def Dealing.read? : Dealing → Option (List UInt8)
  | ⟨.read _, .bytes x, _⟩ => some x
  | _ => none

variable {σ : Type}

/-- The bytes that the library returns to the readings of a trace. -/
def Trace.reads (lib : SerialLibrary σ) (t : Trace) (s : σ) : List (List UInt8) :=
  (t.dealings lib s).filterMap Dealing.read?

theorem Trace.reads_append
    (lib : SerialLibrary σ)
    (t u : Trace)
    (s : σ) :
    (t ++ u).reads lib s = t.reads lib s ++ u.reads lib (t.library lib s) := by
  unfold reads
  rw [dealings_append, List.filterMap_append]

namespace SerialPort

variable {lib : SerialLibrary σ} {l : SerialLine σ}

/-- What a reading returns is nothing, or the library has returned it. -/
theorem mem_reads_reading
    {within : Value}
    {n : Int}
    {bs : List UInt8}
    (h : (reading lib within n l).result = .ok bs) :
    bs = [] ∨ bs ∈ (reading lib within n l).trace.reads lib l.library := by
  let m := l.after lib (.setTimeout within)
  obtain ⟨set, hset, hrest⟩ := Run.ok_of_bind h
  have hstart : SerialLine.ask lib (.setTimeout within) l =
      ⟨[.serial (.setTimeout within)], .ok set, m⟩ := by
    rw [SerialLine.ask_eq] at hset ⊢
    rw [show (l.dealt lib (.setTimeout within)).answer.ending = .ok set from hset]
  have hfirst : reading lib within n l = _ := reading_of_ask n hstart
  have hread : SerialLine.ask lib (.read n) m =
      ⟨[.serial (.read n)], (m.dealt lib (.read n)).answer.ending, m.after lib (.read n)⟩ :=
    SerialLine.ask_eq lib (.read n) m
  have hok : (taking lib n m).result = .ok bs := by rwa [hfirst] at h
  rw [hfirst]
  cases ha : (m.dealt lib (.read n)).answer with
  | nothing =>
      rw [ha] at hread
      have hsecond : taking lib n m = _ := SerialLine.ask_bind (fun r => Run.give (r.getD [])) hread
      rw [hsecond] at hok
      exact .inl (Except.ok.inj hok).symm
  | bytes x =>
      rw [ha] at hread
      have hsecond : taking lib n m = _ := SerialLine.ask_bind (fun r => Run.give (r.getD [])) hread
      rw [hsecond] at hok ⊢
      cases hok
      have hreturned : (lib.respond (.read n) m.library).1 = .bytes x := ha
      refine .inr (List.mem_filterMap.mpr ⟨m.dealt lib (.read n), ?_, ?_⟩)
      · exact List.mem_cons_of_mem _ List.mem_cons_self
      · simp [SerialLine.dealt, hreturned, Dealing.read?]
  | halts k =>
      rw [ha] at hread
      have herror : (SerialLine.ask lib (.read n) m).result = .error k := by rw [hread]; rfl
      have hfails : (taking lib n m).result = .error k :=
        congrArg Report.result (Run.bind_of_error herror)
      rw [hfails] at hok
      cases hok

/-- What is received has the size that was asked for, and the library has returned it. -/
theorem receive_whole
    (p : SerialPort)
    {n : Int}
    {timeout : Value}
    {got : Option (List UInt8)}
    (hn : 0 < n)
    (h : (p.receive lib n timeout l).result = .ok got) :
    ∃ x, got = some x ∧ (x.length : Int) = n
      ∧ x ∈ (p.receive lib n timeout l).trace.reads lib l.library := by
  cases hopen : l.isOpen with
  | false =>
      rw [receive_of_closed p n timeout hopen] at h
      cases h
  | true =>
      cases hreading : (reading lib (p.within timeout) n l).result with
      | error k =>
          rw [receive_of_isOpen p n timeout hopen] at h
          obtain ⟨bs, hread, -⟩ := Run.ok_of_bind h
          rw [Run.handle_of_error hreading] at hread
          cases k <;> cases hread
      | ok x =>
          obtain ⟨htrace, hresult⟩ := receive_of_reading hopen hreading
          rw [h] at hresult
          split at hresult
          · rename_i hlength
            refine ⟨x, Except.ok.inj hresult, hlength, ?_⟩
            rw [htrace]
            refine (mem_reads_reading hreading).resolve_left fun hnil => ?_
            rw [hnil] at hlength
            simp only [List.length_nil] at hlength
            omega
          · cases htext : timeoutText (p.within timeout) <;> rw [htext] at hresult <;> cases hresult

end SerialPort

/-- What is read by the first of two runs is read. -/
theorem Run.mem_reads_bind
    {S α β : Type}
    {lib : SerialLibrary σ}
    {x : Run S α}
    {f : α → Run S β}
    {s : S}
    {start : σ}
    {bs : List UInt8}
    (h : bs ∈ (x s).trace.reads lib start) :
    bs ∈ ((x >>= f) s).trace.reads lib start := by
  cases hx : (x s).result with
  | error e =>
      rw [bind_of_error hx]
      exact h
  | ok a =>
      rw [bind_of_ok hx, Trace.reads_append]
      exact List.mem_append_left _ h

namespace World

/-- What a collection returns has been read with the size of a reply, and is empty unless it is a
frame. -/
theorem collect_read
    {lib : SerialLibrary σ}
    {τ : Type}
    (p : SerialPort)
    (pulls : PortCall → σ → Bool)
    (deliver : Deliver (SerialLine σ) τ)
    {w : World (SerialLine σ) τ}
    {x : List UInt8}
    (h : (collect (p.shakyPort lib pulls) deliver w).result = .ok x) :
    ∃ y ∈ (collect (p.shakyPort lib pulls) deliver w).trace.reads lib w.library,
      y.length = Frame.replySize ∧ x = if Frame.accepts y then y else [] := by
  let receiving : Run (World (SerialLine σ) τ) (Option (List UInt8)) :=
    onPort ((p.shakyPort lib pulls).receive Frame.replySize w.courier.policy.timeout)
  obtain ⟨got, hgot, hrest⟩ : ∃ got, (receiving w).result = .ok got ∧ _ := Run.ok_of_bind h
  obtain ⟨m, hshaken, hlibrary, -⟩ := SerialLine.exists_shaken pulls
    (.receive Frame.replySize w.courier.policy.timeout)
    (p.receive lib Frame.replySize w.courier.policy.timeout) w.port
  have hresult : (p.receive lib Frame.replySize w.courier.policy.timeout m).result = .ok got := by
    rw [← hshaken]
    exact hgot
  obtain ⟨y, rfl, hlength, hread⟩ := p.receive_whole (by decide) hresult
  rw [← hshaken, hlibrary] at hread
  refine ⟨y, Run.mem_reads_bind (x := receiving) hread, Int.ofNat_inj.mp hlength, ?_⟩
  obtain ⟨u, -, hrest⟩ := Run.ok_of_bind hrest
  split at hrest
  · rename_i haccepts
    rw [if_pos haccepts]
    exact (Except.ok.inj hrest).symm
  · rename_i haccepts
    obtain ⟨v, -, hrest⟩ := Run.ok_of_bind hrest
    obtain ⟨v, -, hrest⟩ := Run.ok_of_bind hrest
    rw [if_neg haccepts]
    exact (Except.ok.inj hrest).symm

end World

/-! ## What is heeded -/

theorem Entry.isInert_refusal
    (text : String) :
    (Entry.log Level.warning (refusal ++ text)).isInert = false := by
  simp [isInert]

/-- News is told by listeners themselves, or by a reply of some kind. -/
def Event.Licensed (own : Event → Bool) (F : List UInt8 → Prop) (e : Event) : Prop :=
  e.isNews = true → own e = true ∨ ∃ x, F x ∧ Frame.Tells x e

/-- Of what the acceptor sends only replies of some kind reach the record and the listeners, and
no other reply than an empty one is too short for a serial number. -/
structure World.Heeds (own : Event → Bool) (F : List UInt8 → Prop)
    (w : World (SerialLine σ) Audience) (t : Trace) (v : World (SerialLine σ) Audience) :
    Prop where
  learns : Record.Learns F w.courier.record v.courier.record
  told : ∀ l e, .heard l e ∈ t → e.Licensed own F
  refused : ∀ text, .log Level.warning (Entry.refusal ++ text) ∈ t → text = "<empty>"

/-- Along a run the library answers, and if whole replies are of some kind then only replies of
that kind are heeded. -/
def Passage.heeding
    (lib : SerialLibrary σ)
    (own : Event → Bool)
    (F : List UInt8 → Prop) :
    Passage (World (SerialLine σ) Audience) where
  holds w t v := t.library lib w.library = v.library
    ∧ ((∀ x ∈ t.reads lib w.library, Frame.Whole x → F x) → World.Heeds own F w t v)
  stay w := ⟨rfl, fun _ => ⟨.same, fun _ _ h => (by cases h), fun _ h => by cases h⟩⟩
  onward := by
    rintro w t v u z ⟨hlibrary, h⟩ ⟨klibrary, k⟩
    rw [Trace.library_append, Trace.reads_append, hlibrary]
    refine ⟨klibrary, fun hreads => ?_⟩
    obtain ⟨hlearns, htold, hrefused⟩ := h fun x hx => hreads x (List.mem_append_left _ hx)
    obtain ⟨klearns, ktold, krefused⟩ := k fun x hx => hreads x (List.mem_append_right _ hx)
    refine ⟨hlearns.trans klearns, fun l e he => ?_, fun text htext => ?_⟩
    · rcases List.mem_append.mp he with hfirst | hsecond
      · exact htold l e hfirst
      · exact ktold l e hsecond
    · rcases List.mem_append.mp htext with hfirst | hsecond
      · exact hrefused text hfirst
      · exact krefused text hsecond

/-- What is heeded amid listeners that tell only own news. -/
abbrev Passage.heedful
    (lib : SerialLibrary σ)
    (own : Event → Bool)
    (F : List UInt8 → Prop) :
    Passage (World (SerialLine σ) Audience) :=
  (heeding lib own F).amid (fun _ => True) (Reaction.minds own none)

/-- Along a run on a line the library answers, and nothing is left but calls and inert entries. -/
def Passage.hushed (lib : SerialLibrary σ) : Passage (SerialLine σ) where
  holds l t m := t.library lib l.library = m.library
    ∧ ∀ e ∈ t, e.isInert = true ∨ e.isCall = true
  stay l := ⟨rfl, fun e he => by cases he⟩
  onward := by
    rintro l t m u n ⟨hlibrary, h⟩ ⟨klibrary, k⟩
    rw [Trace.library_append, hlibrary]
    refine ⟨klibrary, fun e he => ?_⟩
    rcases List.mem_append.mp he with hfirst | hsecond
    · exact h e hfirst
    · exact k e hsecond

namespace SerialPort

variable {lib : SerialLibrary σ}

theorem hushed_ask
    (c : SerialCall) :
    Run.Follows (.hushed lib) (SerialLine.ask lib c) := by
  refine fun l => ⟨SerialLine.answered_ask c l, fun e he => ?_⟩
  rw [List.mem_singleton.mp he]
  exact .inr rfl

theorem hushed_emit
    {e : Entry}
    (he : e.isInert = true) :
    Run.Follows (.hushed lib) (Run.emit e) := by
  refine fun l => ⟨Run.answered_emit (Entry.isCall_of_isInert he) l, fun d hd => ?_⟩
  rw [List.mem_singleton.mp hd]
  exact .inl he

theorem hushed_change
    {f : SerialLine σ → SerialLine σ}
    (hf : ∀ l, (f l).library = l.library) :
    Run.Follows (.hushed lib) (Run.change f) := fun l =>
  ⟨(hf l).symm, fun _ he => by cases he⟩

theorem hushed_unplug
    (l : SerialLine σ) :
    (Passage.hushed lib).holds l [] l.unplug :=
  hushed_change (f := SerialLine.unplug) (fun _ => rfl) l

end SerialPort

namespace World

variable {lib : SerialLibrary σ} {own : Event → Bool} {F : List UInt8 → Prop}

theorem heeding_unaudited :
    (Passage.heeding lib own F).Unaudited := fun _ _ =>
  ⟨rfl, fun _ => ⟨.same, fun _ _ h => (by cases h), fun _ h => by cases h⟩⟩

/-- An entry may be left if it is no call, tells no news without a licence and warns of no other
reply without a serial number than an empty one. -/
theorem heedful_emit
    {e : Entry}
    (hcall : e.isCall = false)
    (htold : ∀ l event, e = .heard l event → event.Licensed own F)
    (hrefused : ∀ text, e = .log Level.warning (Entry.refusal ++ text) → text = "<empty>") :
    Run.Follows (.heedful lib own F) (Run.emit e) := by
  refine fun w hw => ⟨⟨Entry.library_of_not_isCall lib hcall _, fun _ => ⟨.same, ?_, ?_⟩⟩, hw⟩
  · exact fun l event he => htold l event (List.mem_singleton.mp he).symm
  · exact fun text htext => hrefused text (List.mem_singleton.mp htext).symm

theorem heedful_inert
    {e : Entry}
    (he : e.isInert = true) :
    Run.Follows (.heedful lib own F) (Run.emit e) := by
  refine heedful_emit (Entry.isCall_of_isInert he) ?_ ?_
  · rintro l event rfl
    cases he
  · rintro text rfl
    rw [Entry.isInert_refusal] at he
    cases he

theorem heedful_heard
    {who : String}
    {e : Event}
    (he : e.Licensed own F) :
    Run.Follows (.heedful lib own F) (Run.emit (.heard who e)) := by
  refine heedful_emit rfl ?_ fun _ h => by cases h
  rintro _ _ ⟨⟩
  exact he

theorem heedful_change
    {f : Courier → Courier}
    (hf : ∀ c, Record.Learns F c.record (f c).record) :
    Run.Follows (.heedful lib own F) (change f) := fun w hw =>
  ⟨⟨rfl, fun _ => ⟨hf w.courier, fun _ _ h => (by cases h), fun _ h => by cases h⟩⟩, hw⟩

theorem heedful_control
    (f : Control → Control) :
    Run.Follows (.heedful lib own F) (control f) :=
  heedful_change fun _ => .same

/-- What is hushed on the port teaches and tells nothing. -/
theorem heedful_onPort
    {α : Type}
    {x : Run (SerialLine σ) α}
    (hx : Run.Follows (.hushed lib) x) :
    Run.Follows (.heedful lib own F) (onPort x) := by
  intro w hw
  obtain ⟨hlibrary, hquiet⟩ := hx w.port
  refine ⟨⟨hlibrary, fun _ => ⟨.same, fun l e he => ?_, fun text htext => ?_⟩⟩, hw⟩
  · rcases hquiet _ he with hinert | hcall
    · cases hinert
    · cases hcall
  · rcases hquiet _ htext with hinert | hcall
    · rw [Entry.isInert_refusal] at hinert
      cases hinert
    · cases hcall

section Port

variable (p : SerialPort) (pulls : PortCall → σ → Bool)

theorem heedful_connect :
    Run.Follows (.heedful lib own F) (onPort (p.shakyPort lib pulls).connect) :=
  heedful_onPort <| SerialLine.follows_shaken SerialPort.hushed_unplug <| p.follows_connect
    (fun c _ => SerialPort.hushed_ask c) (fun _ => SerialPort.hushed_change fun _ => rfl)
    fun _ he _ => SerialPort.hushed_emit he

theorem heedful_disconnect :
    Run.Follows (.heedful lib own F) (onPort (p.shakyPort lib pulls).disconnect) :=
  heedful_onPort <| SerialLine.follows_shaken SerialPort.hushed_unplug <| p.follows_disconnect
    (SerialPort.hushed_ask _) (SerialPort.hushed_change fun _ => rfl)
    (SerialPort.hushed_change fun _ => rfl) fun _ he _ => SerialPort.hushed_emit he

theorem heedful_discard :
    Run.Follows (.heedful lib own F) (onPort (p.shakyPort lib pulls).discard) :=
  heedful_onPort <| SerialLine.follows_shaken SerialPort.hushed_unplug <|
    p.follows_discard (SerialPort.hushed_ask _)

theorem heedful_send
    (bs : List UInt8) :
    Run.Follows (.heedful lib own F) (onPort ((p.shakyPort lib pulls).send bs)) :=
  heedful_onPort <| SerialLine.follows_shaken SerialPort.hushed_unplug <|
    p.follows_send fun c _ => SerialPort.hushed_ask c

theorem heedful_receive
    (n : Int)
    (timeout : Value) :
    Run.Follows (.heedful lib own F) (onPort ((p.shakyPort lib pulls).receive n timeout)) :=
  heedful_onPort <| SerialLine.follows_shaken SerialPort.hushed_unplug <|
    p.follows_receive (fun _ => SerialPort.hushed_ask _) (SerialPort.hushed_ask _)

end Port

/-! ## Ticks -/

section Ticks

variable (p : SerialPort) (pulls : PortCall → σ → Bool)
  {deliver : Deliver (SerialLine σ) Audience} (hdeliver : Hearkens (.heedful lib own) deliver)
include hdeliver

omit p pulls in
/-- An event that is licensed is told. -/
theorem heedful_fire
    {e : Event}
    (he : e.Licensed own F) :
    Run.Follows (.heedful lib own F) (fire deliver e) :=
  hdeliver.fire (fun _ => heedful_heard he) fun _ => heedful_inert rfl

/-- All that a tick does besides its command and what it makes of a reply may happen. -/
theorem heedful_routine :
    (Passage.heedful lib own F).Routine (p.shakyPort lib pulls) deliver where
  log _ _ _ := heedful_inert
  slept _ := heedful_inert rfl
  mailbox _ := heedful_control _
  accounted _ := heedful_change fun _ => .accounted _ _ .same
  connect := heedful_connect p pulls
  disconnect := heedful_disconnect p pulls
  discard := heedful_discard p pulls
  receive := heedful_receive p pulls
  traffic _ _ := heedful_fire hdeliver fun h => by cases h
  alarm _ := heedful_fire hdeliver fun h => by cases h

/-- What is made of a reply may happen if it may for an empty one and for a whole one that may be
heeded. -/
theorem heedful_digest
    {use : List UInt8 → Run (World (SerialLine σ) Audience) Unit}
    (hnone : Run.Follows (.heedful lib own F) (use []))
    (huse : ∀ G x, G x → Frame.Whole x → Run.Follows (.heedful lib own G) (use x)) :
    Run.Follows (.heedful lib own F) (collect (p.shakyPort lib pulls) deliver >>= use) := by
  intro w hw
  have hcollect := (heedful_routine (F := F) p pulls hdeliver).collect w
  cases hr : (collect (p.shakyPort lib pulls) deliver w).result with
  | error h =>
      rw [Run.bind_of_error hr]
      exact hcollect hw
  | ok x =>
      rw [Run.bind_of_ok hr]
      obtain ⟨y, hread, hlength, rfl⟩ := collect_read p pulls deliver hr
      by_cases haccepts : Frame.accepts y = true
      · rw [if_pos haccepts]
        have hwhole := Frame.whole_of_accepts haccepts hlength
        -- Whether the reply may be heeded depends on what is read; that the library answers does
        -- not, and so it is shown where every reply may be.
        have hplain := (Passage.heedful lib own fun _ => True).onward
          ((heedful_routine p pulls hdeliver).collect w)
          (huse (fun _ => True) y trivial hwhole _) hw
        refine ⟨⟨hplain.1.1, fun hreads => ?_⟩, hplain.2⟩
        have hkind : F y := by
          refine hreads y ?_ hwhole
          rw [Trace.reads_append]
          exact List.mem_append_left _ hread
        have hheeded := (Passage.heedful lib own F).onward hcollect (huse F y hkind hwhole _) hw
        exact hheeded.1.2 hreads
      · rw [if_neg haccepts]
        exact (Passage.heedful lib own F).onward hcollect (hnone _) hw

omit p pulls in
/-- A normal poll writes down and tells only what a whole reply says. -/
theorem heedful_absorb
    {x : List UInt8}
    (hx : F x)
    (hwhole : Frame.Whole x) :
    Run.Follows (.heedful lib own F) (absorb deliver x) := by
  intro w
  rw [absorb_of_frame deliver hwhole.accepts w]
  have hwritten : Run.Follows (.heedful lib own F)
      (record fun r => r.updated (Reply.decode w.courier.codec x)) :=
    heedful_change fun _ => .polled _ x hx .same
  refine (Passage.heedful lib own F).onward (t := []) (hwritten w)
    (hdeliver.fireAll (fun e he _ => heedful_heard ?_) (fun _ _ _ => heedful_inert rfl) _)
  exact fun _ => .inr ⟨x, hx, w.courier.codec, he⟩

end Ticks

/-- What a query for the serial number does with its reply. -/
def identify {σ τ : Type} (reply : List UInt8) : Run (World σ τ) Unit :=
  if reply.length < serialNumberOffset + SerialNumber.size then
    Run.log Level.warning
      (Entry.refusal ++ (if reply.isEmpty then "<empty>" else HexText.spaced reply))
  else do
    let unsigned ← ask fun c => c.policy.unsignedSerial
    let text ← Run.ofExcept (SerialNumber.ofBytes unsigned (Frame.serialPart reply))
    record fun r => { r with serialNumber := some text }
    logFields Level.info [("event", .text "serial_number"), ("value", .text text)]

/-- A whole reply to such a query is written down if it can be read. -/
theorem heedful_identify
    {x : List UInt8}
    (hx : F x)
    (hwhole : Frame.Whole x) :
    Run.Follows (.heedful lib own F) (identify x) := by
  have hlong : ¬ x.length < serialNumberOffset + SerialNumber.size := by
    rw [hwhole.length_eq]
    decide
  unfold identify
  rw [if_neg hlong]
  refine (Run.Follows.look _).bind fun unsigned => Run.Follows.ofExcept_bind fun text htext => ?_
  have hwritten : Run.Follows (.heedful lib own F)
      (record fun r => { r with serialNumber := some text }) :=
    heedful_change fun _ => .identified unsigned x text hx htext .same
  exact hwritten.bind fun _ => heedful_inert (Entry.isInert_fields _ _)

/-- A query for the serial number warns of an empty reply. -/
theorem heedful_identify_nil :
    Run.Follows (.heedful lib own F) (identify []) := by
  refine heedful_emit rfl (fun _ _ h => by cases h) fun text htext => ?_
  obtain ⟨-, hwarning⟩ := Entry.log.inj htext
  exact (String.append_right_inj _).mp hwarning.symm

/-- Whatever a request asks for, only what may be heeded is. -/
theorem heedful_serve
    (p : SerialPort)
    (pulls : PortCall → σ → Bool)
    {deliver : Deliver (SerialLine σ) Audience}
    (hdeliver : Hearkens (.heedful lib own) deliver)
    (request : Option Request) :
    Run.Follows (.heedful lib own F) (serve (p.shakyPort lib pulls) deliver request) := by
  have hroutine := heedful_routine (F := F) p pulls hdeliver
  have hinquire : Run.Follows (.heedful lib own F)
      (command (Courier.commandFor request) >>= transmit (p.shakyPort lib pulls) deliver) := by
    have hturned : Run.Follows (.heedful lib own F)
        (change fun c => { c with codec := c.codec.turned }) := heedful_change fun _ => .same
    have hcommand : Run.Follows (.heedful lib own F)
        (command (Courier.commandFor request) : Run (World (SerialLine σ) Audience) _) :=
      (Run.Follows.look _).bind fun _ => hturned.bind fun _ => Run.Follows.give _
    exact hcommand.bind fun bytes =>
      (hroutine.traffic _ _).bind fun _ => heedful_send p pulls bytes
  cases request with
  | none =>
      exact Passage.Routine.inquiry none hinquire <|
        heedful_digest p pulls hdeliver (Run.Follows.give ()) fun _ _ => heedful_absorb hdeliver
  | some r =>
      cases r with
      | identity =>
          exact (heedful_inert rfl).bind fun _ =>
            Passage.Routine.inquiry (some .identity) hinquire <|
              heedful_digest p pulls hdeliver heedful_identify_nil fun _ _ => heedful_identify
      | reset =>
          exact hroutine.resetAcceptor hinquire

/-! ## Operations -/

section Operations

variable (p : SerialPort) (pulls : PortCall → σ → Bool)

theorem heedful_concludes :
    (Passage.heedful lib own F).Concludes (p.shakyPort lib pulls) :=
  Passage.concludes_of_emit (fun _ => heedful_inert) heedful_control (heedful_disconnect p pulls)

/-- An operation that tells only own events heeds only what may be heeded. -/
theorem heedful_perform
    {deliver : Deliver (SerialLine σ) Audience}
    (hdeliver : Hearkens (.heedful lib own) deliver)
    {op : Operation}
    (hop : (Reaction.performs op).minds own none = true) :
    Run.Follows (.heedful lib own F) (perform (p.shakyPort lib pulls) deliver op) := by
  have htick := (heedful_routine (F := F) p pulls hdeliver).tick (heedful_serve p pulls hdeliver)
  refine (heedful_concludes p pulls).perform (fun _ _ => heedful_change fun _ => .same) ?_
    fun _ => htick
  rintro e rfl
  exact heedful_fire hdeliver fun _ => .inl hop

/-- However deep the calls of listeners are nested, only what may be heeded is. -/
theorem heedful_performNested
    (depth : Nat)
    (F : List UInt8 → Prop)
    (op : Operation)
    (hop : (Reaction.performs op).minds own none = true) :
    Run.Follows (.heedful lib own F) (performNested (p.shakyPort lib pulls) depth op) :=
  follows_performNested_of_hearkens (fun _ => heeding_unaudited)
    (fun _ _ _ => heedful_inert rfl) (fun hdeliver _ _ hop => heedful_perform p pulls hdeliver hop)
    depth F op hop

end Operations

variable (lib) in
/--
Whatever operations a courier over a serial port goes through, whatever the serial library answers
and whenever the cable is pulled: what is written down and what listeners are told of the acceptor,
besides what they tell each other, comes from replies that were read and are whole, and only an
empty reply is too short for a serial number.  For what a collection returns is a whole reply, or
nothing in place of a reply of the same size that is no frame.
-/
theorem only_whole_replies_interpreted
    (p : SerialPort)
    (pulls : PortCall → σ → Bool)
    {ops : List Operation}
    {w : World (SerialLine σ) Audience}
    (hplans : w.audience.Plans (Reaction.minds own none))
    (hops : ∀ op ∈ ops, (Reaction.performs op).minds own none = true) :
    let port := p.shakyPort lib pulls
    let t := chronicle port ops w
    Heeds own (fun x => x ∈ t.reads lib w.library ∧ Frame.Whole x) w t (reached port ops w)
      ∧ ∀ (deliver : Deliver (SerialLine σ) Audience) (v : World (SerialLine σ) Audience) x,
        (collect port deliver v).result = .ok x →
          ∃ y ∈ (collect port deliver v).trace.reads lib v.library,
            Frame.Whole y ∧ x = y ∨ y.length = 11 ∧ Frame.accepts y = false ∧ x = [] := by
  intro port t
  let F (x : List UInt8) : Prop := x ∈ t.reads lib w.library ∧ Frame.Whole x
  have hsteps : ∀ op ∈ ops, Run.Follows (.heedful lib own F) (step port op) :=
    fun op hop v => heedful_performNested p pulls _ F op (hops op hop) v
  obtain ⟨⟨-, hheeds⟩, -⟩ := holds_chronicle hsteps w ⟨trivial, hplans⟩
  refine ⟨hheeds fun x hx hwhole => ⟨hx, hwhole⟩, fun deliver v x hx => ?_⟩
  obtain ⟨y, hread, hlength, rfl⟩ := collect_read p pulls deliver hx
  refine ⟨y, hread, ?_⟩
  by_cases haccepts : Frame.accepts y = true
  · exact .inl ⟨Frame.whole_of_accepts haccepts hlength, if_pos haccepts⟩
  · exact .inr ⟨hlength, by simpa using haccepts, if_neg haccepts⟩

/-- Of a whole reply and a short one the whole one tells of the bill in escrow. -/
theorem only_whole_replies_interpreted_escrowed :
    let p : SerialPort := ⟨.text "dev0", .int 9600, .float SerialPort.usualTimeout⟩
    let port := p.shakyPort .ofAnswers fun _ _ => false
    let reply (bs : List UInt8) : List (Answer × Bool) :=
      [(.nothing, false), (.nothing, false), (.nothing, false), (.bytes bs, false)]
    let short := escrowedFrame.take 5
    let w := unopened (List.replicate 3 (.nothing, false) ++ reply escrowedFrame ++ reply short)
      [⟨⟨"rec", .null⟩, []⟩]
    let t := chronicle port [.poll, .request .identity, .poll] w
    t.reads .ofAnswers w.library = [escrowedFrame, short]
      ∧ ∃ x ∈ [escrowedFrame, short],
        Frame.Whole x ∧ Frame.Tells x (.escrowed (.text "$1") (HexText.spaced escrowedFrame)) := by
  intro p port reply short w t
  have hplans : w.audience.Plans (Reaction.minds (fun _ => false) none) := by decide
  have hreads : t.reads .ofAnswers w.library = [escrowedFrame, short] := by decide +kernel
  have hheard : .escrowed (.text "$1") (HexText.spaced escrowedFrame) ∈ t.heardBy "rec" := by
    decide +kernel
  have hops : ∀ op ∈ [Operation.poll, .request .identity, .poll],
      (Reaction.performs op).minds (fun _ => false) none = true := by decide
  clear_value w
  obtain ⟨hheeds, -⟩ := only_whole_replies_interpreted .ofAnswers p (fun _ _ => false) hplans hops
  obtain hown | ⟨x, ⟨hx, hwhole⟩, htells⟩ :=
    hheeds.told "rec" _ (Trace.heard_of_mem_heardBy hheard) rfl
  · cases hown
  · refine ⟨hreads, x, ?_, hwhole, htells⟩
    rwa [← hreads]

end World

end AcceptorHost
