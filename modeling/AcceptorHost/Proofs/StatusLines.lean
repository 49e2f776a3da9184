import AcceptorHost.Proofs.Credits
import AcceptorHost.Proofs.JsonText
import AcceptorHost.Proofs.LibraryCalls
import AcceptorHost.Proofs.Reports

/-!
# Lines that are about the device

What the printer says of an event begins with another word than the line about the device.
So if no name of a bill breaks the line, the loop prints no such line, whatever the port
does, as long as the port itself prints nothing (`Session.passes_unreporting`).  The lines
about the device on the console are then just those that the watch prints
(`Session.filter_shown`).
-/

namespace AcceptorHost

/-! ## What a port prints -/

/-- Nothing is printed along the way. -/
def Passage.mute {S : Type} : Passage S where
  holds _ t _ := t.lines = []
  stay _ := rfl
  onward h k := by rw [Trace.lines_append, h, k, List.append_nil]

/-- Whatever is asked of a port, nothing is printed. -/
structure Port.Mute {σ : Type} (port : Port σ) : Prop where
  connect : Run.Follows .mute port.connect
  disconnect : Run.Follows .mute port.disconnect
  discard : Run.Follows .mute port.discard
  send : ∀ bs, Run.Follows .mute (port.send bs)
  receive : ∀ n timeout, Run.Follows .mute (port.receive n timeout)

/-- A serial port prints nothing, whatever the library answers. -/
theorem SerialPort.mute
    {σ : Type}
    (p : SerialPort)
    (lib : SerialLibrary σ) :
    (p.port lib).Mute := by
  have hask (c : SerialCall) : Run.Follows .mute (SerialLine.ask lib c) := fun _ => rfl
  have hchange (f : SerialLine σ → SerialLine σ) : Run.Follows .mute (Run.change f) := fun _ => rfl
  have hemit (e : Entry) (he : e.line? = none) :
      Run.Follows .mute (Run.emit e : Run (SerialLine σ) Unit) := fun _ => by
    change List.filterMap Entry.line? [e] = []
    rw [List.filterMap_cons_none he, List.filterMap_nil]
  exact {
    connect := p.follows_connect (fun c _ => hask c) (fun _ => hchange _) fun e _ => hemit e
    disconnect := p.follows_disconnect (hask _) (hchange _) (hchange _) fun e _ => hemit e
    discard := p.follows_discard (hask _)
    send := fun bs => p.follows_send fun c _ => hask c
    receive := fun n timeout => p.follows_receive (fun _ => hask _) (hask _) }

namespace Session

/-! ## What is said of an event -/

/-- The line begins with the word of the lines about the device. -/
def isStatusLine (line : String) : Bool := "[STATUS]".toList.isPrefixOf line.toList

theorem isStatusLine_statusLine
    (r : Record)
    (serialNumber : String) :
    isStatusLine (statusLine r serialNumber) = true := by
  unfold isStatusLine statusLine
  simp only [String.toList_append, List.append_assoc]
  rfl

theorem isStatusLine_of_letter
    {line : String}
    {c : Char}
    (hline : line.toList[1]? = some c)
    (hc : c ≠ 'S') :
    isStatusLine line = false := by
  rw [isStatusLine, ← Bool.not_eq_true, List.isPrefixOf_iff_prefix]
  rintro ⟨rest, hrest⟩
  rw [← hrest] at hline
  exact hc (Option.some.inj hline).symm

/-- The lines of events begin with other words. -/
theorem isStatusLine_line
    (e : Event) :
    isStatusLine (EventPrinter.line e) = false := by
  cases e with
  | connectionFailure count =>
      refine isStatusLine_of_letter (c := 'C') ?_ (by decide)
      unfold EventPrinter.line
      simp only [String.toList_append]
      rfl
  | traffic direction data =>
      have hlabel : ∃ c rest, (Text.upper direction.label).toList = c :: rest ∧ c ≠ 'S' := by
        cases direction with
        | sent => exact ⟨'T', ['X'], by decide +kernel, by decide⟩
        | received => exact ⟨'R', ['X'], by decide +kernel, by decide⟩
      obtain ⟨c, rest, hlabel, hc⟩ := hlabel
      refine isStatusLine_of_letter (c := c) ?_ hc
      unfold EventPrinter.line
      simp only [String.toList_append, hlabel]
      rfl
  | credit name raw =>
      refine isStatusLine_of_letter (c := 'C') ?_ (by decide)
      unfold EventPrinter.line
      rw [String.toList_append]
      rfl
  | escrowed name raw =>
      refine isStatusLine_of_letter (c := 'E') ?_ (by decide)
      unfold EventPrinter.line
      simp only [String.toList_append]
      rfl
  | device kind raw =>
      refine isStatusLine_of_letter (c := 'E') ?_ (by decide)
      unfold EventPrinter.line
      cases kind <;> (dsimp only; decide +kernel)
  | foreign value =>
      rfl

/-- A codec whose names of bills stand on one line each. -/
def OneLineNames (c : Codec) : Prop := ∀ name ∈ c.billNames, '\n' ∉ name.display.toList

/-- What a frame gives to tell stands on one line if the names of the bills do. -/
theorem one_line_eventOf
    {c : Codec}
    (hc : OneLineNames c)
    (x : List UInt8)
    (kind : DeviceEvent) :
    '\n' ∉ (EventPrinter.line (World.eventOf (Reply.decode c x) kind)).toList := by
  have hname : '\n' ∉ (World.shownName (Reply.decode c x).billName).display.toList := by
    unfold World.shownName
    split
    case isTrue hknown =>
      by_cases hzero : Reply.billIndex (Reply.dataByte x 2) = 0
      · have hnull : (Reply.decode c x).billName = .null := by
          change Reply.nameOf c _ = _
          rw [Reply.nameOf, if_pos hzero]
        rw [hnull] at hknown
        cases hknown
      · exact hc _ (Reply.nameOf_mem hzero (Reply.billIndex_le _)).2
    case isFalse =>
      decide
  have hcredit (raw : String) : '\n' ∉
      (EventPrinter.line (.credit (World.shownName (Reply.decode c x).billName) raw)).toList := by
    unfold EventPrinter.line
    rw [String.toList_append, List.mem_append, not_or]
    exact ⟨by decide, hname⟩
  have hescrowed (raw : String) : '\n' ∉
      (EventPrinter.line (.escrowed (World.shownName (Reply.decode c x).billName) raw)).toList := by
    unfold EventPrinter.line
    simp only [String.toList_append, List.mem_append, not_or]
    exact ⟨⟨by decide, hname⟩, by decide⟩
  cases kind with
  | credit => exact hcredit _
  | escrowed => exact hescrowed _
  | _ =>
      unfold World.eventOf EventPrinter.line
      dsimp only
      decide +kernel

/-! ## What the loop prints -/

variable {σ : Type} {port : Port σ}

/-- The names of the bills stand on one line each. -/
def Plain (w : World σ EventPrinter) : Prop := OneLineNames w.courier.codec

/-- No line about the device is printed along the way. -/
def withoutStatus : Passage (World σ EventPrinter) where
  holds _ t _ := t.lines.filter isStatusLine = []
  stay _ := rfl
  onward h k := by rw [Trace.lines_append, List.filter_append, h, k, List.append_nil]

/-- As long as the names stand on one line each, no line about the device is printed. -/
def unreporting : Passage (World σ EventPrinter) := withoutStatus.under Plain

/-- What prints nothing and leaves the codec but for its bit prints no line about the device. -/
theorem unreporting_of_mute
    {α : Type}
    {x : Run (World σ EventPrinter) α}
    (hmute : ∀ w, (x w).trace.lines = [])
    (hnames : ∀ w, (x w).state.courier.codec.billNames = w.courier.codec.billNames) :
    Run.Follows unreporting x := by
  intro w hw
  have hnone : (x w).trace.lines.filter isStatusLine = [] := by rw [hmute, List.filter_nil]
  exact ⟨hnone, fun name hname => hw name (hnames w ▸ hname)⟩

theorem unreporting_onPort
    {α : Type}
    {x : Run σ α}
    (h : Run.Follows .mute x) :
    Run.Follows unreporting (World.onPort x : Run (World σ EventPrinter) α) :=
  unreporting_of_mute (fun w => h w.port) fun _ => rfl

/-- The printer hears an event whose line is one line. -/
theorem unreporting_fire
    {e : Event}
    (he : '\n' ∉ (EventPrinter.line e).toList) :
    Run.Follows unreporting (World.fire deliver e : Run (World σ EventPrinter) Unit) := by
  have hheard (p : EventPrinter) {text : String} (h : (p.hear e).2 = some text) :
      text = EventPrinter.line e := by
    unfold EventPrinter.hear at h
    repeat' split at h
    all_goals cases h
    all_goals rfl
  have hdeliver (l : Listener) :
      Run.Follows unreporting (deliver l e : Run (World σ EventPrinter) Unit) := by
    intro w hw
    rw [deliver_eq]
    refine ⟨?_, hw⟩
    cases hsaid : (w.audience.hear e).2 with
    | none =>
        rfl
    | some text =>
        rw [hheard _ hsaid, Option.map_some, Option.getD_some, Text.splitOn_newline he]
        change [EventPrinter.line e].filter isStatusLine = []
        rw [List.filter_cons_of_neg (by rw [isStatusLine_line]; decide), List.filter_nil]
  refine (Run.Follows.look _).bind fun snapshot => ?_
  exact Run.Follows.dispatch hdeliver (fun _ => unreporting_of_mute (fun _ => rfl) fun _ => rfl) _

theorem unreporting_fireAll
    {es : List Event}
    (h : ∀ e ∈ es, '\n' ∉ (EventPrinter.line e).toList) :
    Run.Follows unreporting (World.fireAll deliver es : Run (World σ EventPrinter) Unit) := by
  induction es with
  | nil =>
      exact Run.Follows.give ()
  | cons e rest ih =>
      exact (unreporting_fire (h e List.mem_cons_self)).bind fun _ =>
        ih fun e he => h e (List.mem_cons_of_mem _ he)

/-- A reply is written down and told on lines of other kinds. -/
theorem unreporting_told
    (reply : List UInt8) :
    Run.Follows unreporting (World.ask (fun c => Reply.decode c.codec reply) >>= fun packet =>
      World.record (fun r => r.updated packet) >>= fun _ =>
        World.fireAll deliver (packet.events.map (World.eventOf packet)) :
          Run (World σ EventPrinter) Unit) := by
  intro w hw
  let packet := Reply.decode w.courier.codec reply
  have hone : ∀ e ∈ packet.events.map (World.eventOf packet),
      '\n' ∉ (EventPrinter.line e).toList := by
    intro e he
    obtain ⟨kind, -, rfl⟩ := List.mem_map.mp he
    exact one_line_eventOf hw reply kind
  have hrecord : Run.Follows unreporting
      (World.record (fun r => r.updated packet) : Run (World σ EventPrinter) Unit) :=
    unreporting_of_mute (fun _ => rfl) fun _ => rfl
  exact (hrecord.bind fun _ => unreporting_fireAll hone) w hw

theorem unreporting_routine
    (hmute : port.Mute) :
    unreporting.Routine port (deliver : Deliver σ EventPrinter) where
  log _ _ _ _ := unreporting_of_mute (fun _ => rfl) fun _ => rfl
  slept _ := unreporting_of_mute (fun _ => rfl) fun _ => rfl
  mailbox _ := unreporting_of_mute (fun _ => rfl) fun _ => rfl
  accounted _ := unreporting_of_mute (fun _ => rfl) fun _ => rfl
  connect := unreporting_onPort hmute.connect
  disconnect := unreporting_onPort hmute.disconnect
  discard := unreporting_onPort hmute.discard
  receive n timeout := unreporting_onPort (hmute.receive n timeout)
  traffic direction bs := unreporting_fire <| by
    unfold EventPrinter.line
    simp only [String.toList_append, List.mem_append, not_or]
    exact ⟨⟨⟨by decide, by cases direction <;> decide +kernel⟩, by decide⟩,
      HexText.one_line_spaced bs⟩
  alarm count := unreporting_fire <| by
    have hcount : '\n' ∉ (Value.intText count).toList := fun hmem =>
      absurd (Json.plain_intText count _ hmem) (by decide)
    unfold EventPrinter.line
    simp only [String.toList_append, List.mem_append, not_or]
    exact ⟨⟨by decide, hcount⟩, by decide⟩

/-- A tick prints no line about the device. -/
theorem unreporting_tick
    (hmute : port.Mute) :
    Run.Follows unreporting (World.tick port (deliver : Deliver σ EventPrinter)) := by
  refine (unreporting_routine hmute).tick fun request => ?_
  exact (unreporting_routine hmute).serve (unreporting_of_mute (fun _ => rfl) fun _ => rfl)
    (fun bs => unreporting_onPort (hmute.send bs))
    (fun _ => unreporting_of_mute (fun _ => rfl) fun _ => rfl)
    (fun _ _ _ _ => unreporting_of_mute (fun _ => rfl) fun _ => rfl) unreporting_told request

theorem unreporting_concludes
    (hmute : port.Mute) :
    (unreporting (σ := σ)).Concludes port := by
  have hloose : (unreporting (σ := σ)).Loose :=
    ⟨fun _ _ _ => unreporting_of_mute (fun _ => rfl) fun _ => rfl,
      fun _ => unreporting_of_mute (fun _ => rfl) fun _ => rfl,
      fun _ => unreporting_of_mute (fun _ => rfl) fun _ => rfl⟩
  exact {
    toLoose := hloose
    waited := fun _ => unreporting_of_mute (fun _ => rfl) fun _ => rfl
    finished := fun hnext => hloose.concludeThread
      ((hloose.finish (unreporting_onPort hmute.disconnect)).bind fun _ => hnext) }

theorem unreporting_pass
    (hmute : port.Mute) :
    Run.Follows unreporting (World.pass port (deliver : Deliver σ EventPrinter)) := by
  intro w
  have hperform := (unreporting_concludes hmute).pass (unreporting_tick hmute) w
  have hgive : World.perform port deliver .pass w = _ := Run.bind_give (fun _ => Value.null) _ w
  rw [hgive] at hperform
  exact hperform

/-- Passes print no line about the device. -/
theorem passes_unreporting
    (hmute : port.Mute)
    (n : Nat) :
    Run.Follows unreporting (passes port n) := by
  induction n with
  | zero =>
      exact Run.Follows.give ()
  | succ n ih =>
      exact (unreporting_pass hmute).bind fun _ => ih

/-! ## What the watch prints -/

/-- The lines about the device on the console are those that the watch prints. -/
theorem filter_shown
    (hmute : port.Mute)
    (asked : Bool)
    (ends : List Nat)
    (total : Nat)
    {w : World σ EventPrinter}
    (hw : Plain w) :
    (shown port asked ends total w).filter isStatusLine =
      (reported? port asked ends w).toList.map (·.2) := by
  cases hreported : reported? port asked ends w with
  | none =>
      simp only [shown, hreported]
      exact (passes_unreporting hmute total w hw).1
  | some r =>
      obtain ⟨k, line⟩ := r
      obtain ⟨hbefore, hk⟩ := passes_unreporting hmute k w hw
      have hafter := (passes_unreporting hmute (total - k) _ hk).1
      have hline : isStatusLine line = true := by
        obtain ⟨j, -, hj⟩ := List.exists_of_findSome?_eq_some hreported
        obtain ⟨other, hother, hsame⟩ := Option.map_eq_some_iff.mp hj
        cases hsame
        unfold status? at hother
        split at hother
        · obtain ⟨text, -, rfl⟩ := Option.map_eq_some_iff.mp hother
          exact isStatusLine_statusLine _ text
        · cases hother
      simp only [shown, hreported]
      rw [List.filter_append, hbefore, List.filter_cons_of_pos hline, hafter]
      rfl

end Session

end AcceptorHost
