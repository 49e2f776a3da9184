import AcceptorHost.Proofs.BillNames
import AcceptorHost.Proofs.Rounding
import AcceptorHost.Proofs.StatusLines
import AcceptorHost.Proofs.Translation

/-!
# Sessions that are interrupted

A session whose arguments are accepted, whose log level is known and whose settings are loaded
and build a courier goes on until it is interrupted.  Whatever the port does, if it can be
closed the session ends with the loop stopped and the port closed.  What it shows is what the
loop shows, with one line about the device at most, and the ticks of the loop serve what was
asked for at the start, each request once.
-/

namespace AcceptorHost

/-- A run that returns, followed by one that does, returns what it did. -/
theorem Run.always_of_returns
    {S α : Type}
    {x : Run S α}
    {y : Run S Unit}
    {s : S}
    {a : α}
    (hx : (x s).result = .ok a)
    (hy : (y (x s).state).result = .ok ()) :
    Run.always x y s =
      ⟨(x s).trace ++ (y (x s).state).trace, .ok a, (y (x s).state).state⟩ := by
  have hattempt : (Run.attempt x s).result = .ok (.ok a) := congrArg Except.ok hx
  have hgive : (y >>= fun _ => Run.give a) (x s).state =
      ⟨(y (x s).state).trace, .ok a, (y (x s).state).state⟩ := by
    rw [Run.bind_of_ok hy]
    change Report.mk (_ ++ []) _ _ = _
    rw [List.append_nil]
    rfl
  rw [Run.always, Run.bind_of_ok hattempt]
  change Report.mk (_ ++ ((y >>= fun _ => Run.give a) (x s).state).trace) _ _ = _
  rw [hgive]
  exact congrArg (fun r : Report S α => Report.mk _ r.result r.state) hgive

/-! ## Settings that were loaded -/

/-- A run gives a value at once, or it halts wherever it starts. -/
def Run.Decided {S α : Type} (x : Run S α) : Prop :=
  (∃ a, x = Run.give a) ∨ ∀ s, ∃ h, (x s).result = .error h

namespace Run.Decided

variable {S α β : Type} {x : Run S α}

theorem give
    (a : α) :
    Decided (Run.give a : Run S α) := .inl ⟨a, rfl⟩

theorem halt
    (h : Halt) :
    Decided (Run.halt h : Run S α) := .inr fun _ => ⟨h, rfl⟩

theorem bind
    {f : α → Run S β}
    (hx : Decided x)
    (hf : ∀ a, Decided (f a)) :
    Decided (x >>= f) := by
  rcases hx with ⟨a, rfl⟩ | hhalts
  · exact hf a
  · refine .inr fun s => ?_
    obtain ⟨h, hs⟩ := hhalts s
    exact ⟨h, by rw [Run.bind_of_error hs]⟩

/-- A run that is decided and returns somewhere gives its value everywhere. -/
theorem eq_give
    (hx : Decided x)
    {s : S}
    {a : α}
    (h : (x s).result = .ok a) :
    x = Run.give a := by
  rcases hx with ⟨b, rfl⟩ | hhalts
  · exact congrArg Run.give (Except.ok.inj h)
  · obtain ⟨k, hk⟩ := hhalts s
    cases hk.symm.trans h

end Run.Decided

namespace Settings

variable {S α : Type}

theorem decided_refuse
    (lines : List String) :
    (refuse lines : Run S α).Decided :=
  .inr fun s => ⟨_, by rw [refuse_eq]⟩

theorem decided_refuseText
    (json : JsonLibrary)
    (path text : String)
    (flaw : Json.Flaw) :
    (refuseText json path text flaw : Run S α).Decided := by
  obtain ⟨h, hhalts⟩ := exists_halt_refuseText json path text flaw
  exact .inr fun s => ⟨h, hhalts s⟩

theorem decided_readValue
    (json : JsonLibrary)
    (path : String)
    (file : FileContent) :
    (readValue json path file : Run S Value).Decided := by
  unfold readValue
  split
  · exact decided_refuse _
  · exact .halt _
  · split
    · exact .halt _
    · dsimp only
      split
      · exact decided_refuseText _ _ _ _
      · exact .give _

theorem decided_ofBlock
    (limits : Json.Limits)
    (name : Value)
    (fields : List (String × Value)) :
    (ofBlock limits name fields : Run S Settings).Decided := by
  have hint (row : String) (usual : Int) :
      (intField limits fields row usual : Run S Int).Decided := by
    rcases intField_fails_or_gives (S := S) limits fields row usual with ⟨-, f, hf⟩ | ⟨-, n, hn⟩
    · rw [hf]
      exact .halt _
    · rw [hn]
      exact .give n
  have hnames : (namesField fields : Run S (List Value)).Decided := by
    rcases namesField_fails_or_gives (S := S) fields with ⟨-, f, hf⟩ | ⟨-, names, hn⟩
    · rw [hf]
      exact .halt _
    · rw [hn]
      exact .give names
  refine (hint _ _).bind fun _ => (hint _ _).bind fun _ => (hint _ _).bind fun _ => ?_
  refine (hint _ _).bind fun _ => (hint _ _).bind fun _ => hnames.bind fun names => ?_
  dsimp only
  split
  · exact .give _
  · exact decided_refuse _

/-- Loading looks at nothing but the file: if it returns settings, it just gives them. -/
theorem load_eq_give
    {json : JsonLibrary}
    {path : String}
    {file : FileContent}
    {start : S}
    {s : Settings}
    (h : (load json path file start).result = .ok s) :
    (load json path file : Run S Settings) = Run.give s := by
  have hvalue (v : Value) : (ofValue json.limits path v : Run S Settings).Decided := by
    unfold ofValue
    split
    · split
      · exact decided_ofBlock _ _ _
      · exact decided_refuse _
    · exact .halt _
  exact ((decided_readValue json path file).bind hvalue).eq_give h

end Settings

namespace Session

variable {σ : Type} {port : Port σ}

/-! ## The start -/

/-- The line that the session greets with. -/
def greeting : String := "Press Ctrl+C to exit."

/-- The world after the start of a session. -/
def launched (options : Options) (w : World σ EventPrinter) : World σ EventPrinter :=
  { w with courier :=
    { w.courier with
      control := ⟨false, false, ⟨options.serial, options.reset⟩, .running, .parked⟩
      listeners := ⟨[listener]⟩ } }

/-- The start of a session leaves the requests, greets, and lets the loop wait. -/
theorem launch_eq
    (port : Port σ)
    (options : Options)
    {policy : Policy}
    {codec : Codec}
    {record : Record}
    (line : σ)
    (printer : EventPrinter)
    (hinterval : ∃ text, World.intervalText policy.pollInterval = .ok text) :
    let w : World σ EventPrinter := ⟨⟨policy, codec, .fresh, .empty, record⟩, line, printer⟩
    ∃ t, launch port options w = ⟨t, .ok (), launched options w⟩ ∧ t.lines = [greeting] := by
  intro w
  obtain ⟨text, htext⟩ := hinterval
  let asked : World σ EventPrinter :=
    { launched options w with courier :=
      { (launched options w).courier with
        control := ⟨false, false, ⟨options.serial, options.reset⟩, .notStarted, .absent⟩ } }
  have hasked : launch port options w =
      (World.start port >>= fun _ => print greeting) asked := by
    obtain ⟨config, serial, reset, traffic, level, purge⟩ := options
    cases serial <;> cases reset <;> rfl
  have hstart : World.start port asked = _ := World.start_of_idle port rfl htext
  have hstarted : (World.start port asked).result = .ok () := by rw [hstart]
  have hgreeting : greeting.splitOn "\n" = [greeting] := Text.splitOn_newline (by decide)
  rw [Run.bind_of_ok hstarted, hstart, print_eq, hgreeting] at hasked
  exact ⟨_, hasked, rfl⟩

/-- The loop of a fresh courier with an integer limit can be watched once it is launched. -/
theorem going_launched
    (options : Options)
    {policy : Policy}
    {codec : Codec}
    {n : Int}
    (line : σ)
    (printer : EventPrinter)
    (hlimit : policy.retryLimit = .int n) :
    Going (launched options
      (⟨⟨policy, codec, .fresh, .empty, .fresh⟩, line, printer⟩ : World σ EventPrinter)) where
  parked := rfl
  running := rfl
  unasked := rfl
  unpaused := rfl
  limited := ⟨n, hlimit⟩
  legible _ hknown := by cases hknown

/-! ## The end -/

/-- The end of a session stops the loop and closes the port. -/
theorem conclude_going
    {w : World σ EventPrinter}
    (hcloses : (port.disconnect w.port).result = .ok ())
    (hw : Going w) :
    conclude port w =
      ⟨.log Level.debug "Stopping courier thread..." :: (port.disconnect w.port).trace
          ++ [.log Level.info "Courier stopped", .log Level.debug "Courier thread stopped"],
        .ok (),
        { w with
          courier := { w.courier with control :=
            { w.courier.control with stopFlag := true, phase := .stopped, thread := .ended } }
          port := (port.disconnect w.port).state }⟩ := by
  have hends := World.requestStop_ends port hcloses hw.parked
  have hok : (World.requestStop port false w).result = .ok true := by rw [hends]
  have hconclude : conclude port w = _ := Run.bind_of_ok (f := fun _ => Run.give ()) hok
  rw [hconclude, hends]
  change Report.mk (_ ++ []) _ _ = _
  rw [List.append_nil]
  rfl

/-- If the loop is stranded, it has come to its end before. -/
theorem conclude_stranded
    {w : World σ EventPrinter}
    (hw : Stranded port w) :
    conclude port w =
      ⟨[.log Level.debug "Stopping courier thread...", .log Level.debug "Courier thread stopped"],
        .ok (), w.stopAsked⟩ := by
  have hphase : w.stopAsked.courier.control.phase = .stopped := by
    change (if w.courier.control.phase = .running then Phase.stopping
      else w.courier.control.phase) = .stopped
    rw [hw.stopped]
    rfl
  have hends := World.requestStop_of_ended port false hw.ended
  rw [World.reportEnd_of_stopped false hphase] at hends
  have hok : (World.requestStop port false w).result = .ok true := by rw [hends]
  have hconclude : conclude port w = _ := Run.bind_of_ok (f := fun _ => Run.give ()) hok
  rw [hconclude, hends]
  rfl

/-- The end of a session returns and shows nothing. -/
theorem conclude_returns
    (hport : port.Yields)
    (hmute : port.Mute)
    {w : World σ EventPrinter}
    (hw : Watched port w) :
    (conclude port w).result = .ok () ∧ (conclude port w).trace.lines = [] := by
  rcases hw with hgoing | hstranded
  · have hclosing : (port.disconnect w.port).trace.lines = [] := hmute.disconnect w.port
    rw [conclude_going (hport.closes w.port) hgoing, List.cons_append]
    refine ⟨rfl, ?_⟩
    change Trace.lines (_ ++ _) = []
    rw [Trace.lines_append, hclosing, List.nil_append]
    rfl
  · rw [conclude_stranded hstranded]
    exact ⟨rfl, rfl⟩

/-- After the end of a session the courier is stopped and a serial port closed. -/
theorem conclude_stops
    {p : SerialPort}
    {lib : SerialLibrary σ}
    {w : World (SerialLine σ) EventPrinter}
    (hport : (p.port lib).Yields)
    (hw : Watched (p.port lib) w) :
    let v := (conclude (p.port lib) w).state
    v.courier.control.phase = .stopped ∧ (p.port lib).isOpen v.port = false := by
  intro v
  have hclosed {l : SerialLine σ} (hl : ∃ line, l = ((p.port lib).disconnect line).state) :
      (p.port lib).isOpen l = false := by
    obtain ⟨line, rfl⟩ := hl
    have hheld : ((p.port lib).disconnect line).state.held = none :=
      p.held_of_disconnect (hport.closes line)
    change ((p.port lib).disconnect line).state.isOpen = false
    rw [SerialLine.isOpen, hheld]
    rfl
  have hv : v = (conclude (p.port lib) w).state := rfl
  rcases hw with hgoing | hstranded
  · rw [conclude_going (hport.closes w.port) hgoing] at hv
    rw [hv]
    exact ⟨rfl, hclosed ⟨w.port, rfl⟩⟩
  · rw [conclude_stranded hstranded] at hv
    rw [hv]
    refine ⟨?_, hclosed hstranded.closed⟩
    change (if w.courier.control.phase = .running then Phase.stopping
      else w.courier.control.phase) = .stopped
    rw [hstranded.stopped]
    rfl

/-- However a watch ends, the courier is asked to stop. -/
theorem serve_ends
    (hport : port.Yields)
    (hmute : port.Mute)
    (options : Options)
    (schedule : Schedule)
    {start w : World σ EventPrinter}
    {t : Trace}
    (hlaunch : launch port options start = ⟨t, .ok (), w⟩)
    (hw : Watched port w) :
    let r := serve port options schedule start
    let total := schedule.ended.sum + schedule.interrupted
    r.result = .ok () ∧
      r.state = (conclude port (passes port total w).state).state ∧
      r.trace.lines =
        t.lines ++ shown port options.serial (waitEnds schedule.ended) total w := by
  intro r total
  let x := watchAll port options.serial schedule
  obtain ⟨hresult, hstate, hlines⟩ : (x w).result = .ok () ∧
      (x w).state = (passes port total w).state ∧
      (x w).trace.lines = shown port options.serial (waitEnds schedule.ended) total w :=
    watch_then hport options.serial schedule.ended schedule.interrupted false hw
  obtain ⟨s, v, hpasses, hv⟩ := passes_watched hport total hw
  have hlast : (x w).state = v := by rw [hstate, hpasses]
  obtain ⟨hends, hquiet⟩ := conclude_returns hport hmute hv
  rw [← hlast] at hends hquiet
  have hlaunched : (launch port options start).result = .ok () := by rw [hlaunch]
  have hserve : r = ⟨t ++ ((x w).trace ++ (conclude port (x w).state).trace), .ok (),
      (conclude port (x w).state).state⟩ := by
    change (launch port options >>= fun _ => Run.always x (conclude port)) start = _
    rw [Run.bind_of_ok hlaunched, hlaunch]
    have halways := Run.always_of_returns hresult hends
    change Report.mk (t ++ (Run.always x (conclude port) w).trace) _ _ = _
    rw [halways]
  rw [hserve]
  refine ⟨rfl, by rw [hstate], ?_⟩
  change Trace.lines (t ++ (_ ++ _)) = _
  rw [Trace.lines_append, Trace.lines_append, hquiet, hlines, List.append_nil]

/-! ## Whole sessions -/

/-- A session gets to the making of its courier, and has printed nothing until then. -/
theorem prepare_eq
    {json : JsonLibrary}
    {args : List String}
    {files : String → FileContent}
    {options : Options}
    {level : Int}
    {start : LogBook}
    {settings : Settings}
    {port : SerialPort}
    {courier : Courier}
    {longest : Option Binary64}
    (hargs : Arguments.parse args = .ok options)
    (hlevel : Level.ofName? (Text.upper options.logLevel) = some level)
    (hload : (Settings.load json options.config (files options.config) start).result = .ok settings)
    (hbuild : settings.build longest = .ok (port, courier))
    (book : LogBook) :
    ∃ later, prepare longest json args files book = ⟨[], .ok (options, port, courier), later⟩ := by
  have hread : readArguments args = Run.give options := by
    unfold readArguments
    rw [hargs]
  have hset : LogBook.setLevel (.text options.logLevel) =
      Run.change fun b => { b with level := level } := by
    simp only [LogBook.setLevel, hlevel]
  simp only [prepare, hread, hset, Settings.load_eq_give hload, Run.give_bind, hbuild]
  cases options.purgeLog with
  | true => exact ⟨_, rfl⟩
  | false => exact ⟨_, rfl⟩

/-- A session starts well with a courier that was built from settings. -/
theorem launch_of_build
    (port : Port (SerialLine σ))
    (options : Options)
    {settings : Settings}
    {p : SerialPort}
    {courier : Courier}
    {longest : Option Binary64}
    (hbuild : settings.build longest = .ok (p, courier))
    (library : σ) :
    let w := opening options courier library
    (∃ t, launch port options w = ⟨t, .ok (), launched options w⟩ ∧ t.lines = [greeting]) ∧
      Going (launched options w) := by
  obtain ⟨interval, timeout, hinterval, hcourier⟩ := Settings.courier_of_build hbuild
  rw [hcourier]
  exact ⟨launch_eq port options _ _ (Policy.intervalText_of_interval hinterval),
    going_launched options _ _ rfl⟩

/-- There is a line about the device if it was asked for and the serial number is known where a wait
ends. -/
theorem reported?_isSome_iff
    (port : Port σ)
    (asked : Bool)
    (ends : List Nat)
    (w : World σ EventPrinter) :
    (reported? port asked ends w).isSome = true ↔
      asked = true ∧
        ∃ k ∈ ends, (passes port k w).state.courier.record.serialNumber.isSome = true := by
  unfold reported? status?
  rw [List.isSome_findSome?, List.any_eq_true]
  cases asked <;> simp

/--
Let the arguments of a session be accepted, its log level be known and its settings be loaded and
build a courier, and let the port be closed without a failure; its other operations may fail with
any fault.  However many passes the loop makes in the waits of the watch that end and in the wait
that is interrupted, the session returns, and it leaves a courier that is stopped and a port that
is closed.  The console shows what the loop shows, and a line about the device where the first
wait ends after which the serial number is known, if it was asked for.  This is the one line of its
kind if no name of a bill breaks a line, and without it there is none.  The ticks of the loop take
the request for the serial number if it was asked for, then the reset if that was, and then
nothing; every pass ticks, unless the platform refuses to wait for one poll interval: then the
first pass is the only one.
-/
theorem interrupted_session_stops
    {json : JsonLibrary}
    {args : List String}
    {files : String → FileContent}
    {options : Options}
    {level : Int}
    {start : LogBook}
    {settings : Settings}
    {p : SerialPort}
    {courier : Courier}
    {lib : SerialLibrary σ}
    {longest : Option Binary64}
    (hargs : Arguments.parse args = .ok options)
    (hlevel : Level.ofName? (Text.upper options.logLevel) = some level)
    (hload : (Settings.load json options.config (files options.config) start).result = .ok settings)
    (hbuild : settings.build longest = .ok (p, courier))
    (hport : (p.port lib).Yields)
    (book : LogBook)
    (library : σ)
    (schedule : Schedule) :
    let port := p.port lib
    let o := run longest json args files book lib library schedule
    let w := (launch port options (opening options courier library)).state
    let ends := waitEnds schedule.ended
    let total := schedule.ended.sum + schedule.interrupted
    o.result = .ok () ∧
    (∃ v, o.world = some v ∧ v = (conclude port (passes port total w).state).state ∧
      v.courier.control.phase = .stopped ∧ port.isOpen v.port = false) ∧
    o.trace.lines = greeting :: shown port options.serial ends total w ∧
    ((reported? port options.serial ends w).isSome = true ↔ options.serial = true ∧
      ∃ k ∈ ends, (passes port k w).state.courier.record.serialNumber.isSome = true) ∧
    ((∀ name ∈ settings.billNames, '\n' ∉ name.display.toList) →
      o.trace.lines.filter isStatusLine =
        (reported? port options.serial ends w).toList.map (·.2)) ∧
    (tickStarts port total w).map (·.courier.control.mailbox.take.1) =
      (List.range (ticking courier.policy total)).map fun i =>
        ((if options.serial then [.identity] else [])
          ++ (if options.reset then [.reset] else []))[i]? := by
  intro port o w ends total
  have hmute : port.Mute := p.mute lib
  have hnames : courier.codec.billNames = settings.billNames := Settings.build_ok hbuild
  obtain ⟨⟨t, hlaunch, hgreeting⟩, hv⟩ := launch_of_build port options hbuild library
  have hw : w = launched options (opening options courier library) := by
    change (launch port options (opening options courier library)).state = _
    rw [hlaunch]
  obtain ⟨later, hprepare⟩ := prepare_eq hargs hlevel hload hbuild book
  obtain ⟨hresult, hstate, hlines⟩ := serve_ends hport hmute options schedule hlaunch (.inl hv)
  let served := serve port options schedule (opening options courier library)
  have hrun : o = ⟨served.trace.shownAt later.level, served.result, later, some served.state,
      some p⟩ := by
    change run longest json args files book lib library schedule = _
    unfold run
    rw [hprepare]
    rfl
  have hshown : o.trace.lines = greeting :: shown port options.serial ends total w := by
    rw [hrun, Trace.lines_shownAt, hlines, hgreeting, hw]
    rfl
  obtain ⟨s, u, hpasses, hu⟩ := passes_watched hport total (.inl hv)
  have hends : served.state = (conclude port u).state := by rw [hstate, hpasses]
  obtain ⟨hstopped, hclosed⟩ := conclude_stops hport hu
  rw [← hends] at hstopped hclosed
  refine ⟨by rw [hrun]; exact hresult, ⟨served.state, by rw [hrun], by rw [hw]; exact hstate,
    hstopped, hclosed⟩, hshown, reported?_isSome_iff .., fun hplain => ?_, ?_⟩
  · have hone : Plain w := by
      intro name hname
      rw [hw] at hname
      exact hplain name (hnames ▸ hname)
    have hgreets : isStatusLine greeting = false := by decide
    rw [hshown, List.filter_cons_of_neg (by rw [hgreets]; decide), filter_shown hmute _ _ _ hone]
  · rw [hw, taken_in_order hport total hv]
    rfl

/-- The serial number is asked for in the first pass, before the reset; the wait in which no pass
is made brings no line, the next one does, and the failure of the last pass ends nothing. -/
theorem interrupted_session_stops_reported :
    let files : String → FileContent := fun _ => .bytes Settings.unnamedBillText.toUTF8
    let named : List UInt8 := Frame.encode Frame.replyType [0x12, 0x34, 0x56, 0x78, 0x09, 0x00]
    let answers : List (Answer × Bool) :=
      List.replicate 6 (.nothing, false) ++ [(.bytes named, false)]
        ++ List.replicate 9 (.nothing, false)
        ++ [(.halts (.fault (.device .system "lost")), false)]
    let o := run (some Policy.usualLongestWait) .unlimited ["--serial", "--reset"] files
      LogBook.fresh SerialLibrary.ofAnswers answers ⟨[0, 2], 1⟩
    let status := "[STATUS] model N/A, firmware N/A, serial 123456789"
    o.result = .ok () ∧
      (∃ v, o.world = some v ∧ v.courier.control.phase = .stopped ∧ v.port.isOpen = false) ∧
      o.trace.lines = [greeting, status] ∧
      o.trace.lines.filter isStatusLine = [status] := by
  intro files named answers o status
  let options : Options := ⟨"config.json", true, true, false, "INFO", false⟩
  have hargs : Arguments.parse ["--serial", "--reset"] = .ok options := by decide +kernel
  have hlevel : Level.ofName? (Text.upper options.logLevel) = some Level.info := by decide +kernel
  have hload : (Settings.load .unlimited options.config (files options.config)
      LogBook.fresh).result = .ok Settings.unnamedBill := by
    have hvalue := (FileContent.read?_toUTF8 .none _).trans
      (congrArg some Settings.parse_unnamedBill)
    rw [Settings.load_of_read? .unlimited options.config hvalue]
    rfl
  obtain ⟨p, courier, hbuild⟩ := Settings.build_unnamedBill
  have hport : (p.port SerialLibrary.ofAnswers).Yields :=
    (SerialPort.dependable SerialLibrary.ofAnswers_plain p).yields
  let longest : Option Binary64 := some Policy.usualLongestWait
  have hshown : ((Settings.unnamedBill.build longest).toOption.map fun built =>
      let port := built.1.port SerialLibrary.ofAnswers
      shown port true [0, 2] 3 (launched options (opening options built.2 answers))) =
        some [status] := by decide +kernel
  rw [hbuild] at hshown
  obtain ⟨⟨t, hlaunch, -⟩, -⟩ :=
    launch_of_build (p.port SerialLibrary.ofAnswers) options hbuild answers
  obtain ⟨hresult, ⟨v, hv, -, hstopped, hclosed⟩, hlines, -, -, -⟩ :=
    interrupted_session_stops hargs hlevel hload hbuild hport LogBook.fresh answers ⟨[0, 2], 1⟩
  have hall : o.trace.lines = [greeting, status] := by
    rw [hlaunch] at hlines
    exact hlines.trans (congrArg (greeting :: ·) (Option.some.inj hshown))
  refine ⟨hresult, ⟨v, hv, hstopped, hclosed⟩, hall, ?_⟩
  rw [hall]
  decide

end Session

end AcceptorHost
