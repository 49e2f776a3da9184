import AcceptorHost.Proofs.LibraryCalls

/-!
# How the calls on a serial port go

A library is plain if its calls fail only as the serial line or the operating system does.
Over a plain library an opening goes one of four ways (`SerialPort.Opens`), by the call that
fails first, and a closing gives the held object up, whether it fails or not.  Dropping,
sending and receiving use the held object: they neither hand one out nor close it, and it is
held on as the library leaves it.
-/

namespace AcceptorHost

variable {σ : Type}

/-- The calls on a library fail only as the serial line or the operating system does. -/
def SerialLibrary.Plain (lib : SerialLibrary σ) : Prop :=
  ∀ c s h, (lib.respond c s).1 = .halts h → ∃ f : Fault, h = .fault f ∧ f.isSystem = true

/-- A plain library either lets a call succeed or fails as the line or the system does. -/
theorem SerialLibrary.Plain.cases
    {lib : SerialLibrary σ}
    (hlib : lib.Plain)
    (c : SerialCall)
    (s : σ) :
    (lib.respond c s).1.failure? = none
      ∨ ∃ f : Fault, (lib.respond c s).1 = .halts (.fault f) ∧ f.isSystem = true := by
  cases ha : (lib.respond c s).1 with
  | halts h =>
      obtain ⟨f, rfl, hf⟩ := hlib c s h ha
      exact Or.inr ⟨f, rfl, hf⟩
  | _ =>
      exact Or.inl rfl

/-- A halt is a failure of the serial line or the operating system. -/
def Halt.isSystem : Halt → Bool
  | .fault f => f.isSystem
  | .exit _ => false

/-- An answer as a plain library gives it; one that would not be plain succeeds. -/
def Answer.plain : Answer → Answer
  | .halts h => if h.isSystem then .halts h else .nothing
  | a => a

/-- The library that gives answers from a list, each with whether the cable is pulled. -/
def SerialLibrary.ofAnswers : SerialLibrary (List (Answer × Bool)) where
  respond _ s :=
    match s with
    | [] => (.nothing, [])
    | x :: rest => (x.1.plain, rest)
  unplugged _ s :=
    match s with
    | [] => false
    | x :: _ => x.2

theorem SerialLibrary.ofAnswers_plain : SerialLibrary.ofAnswers.Plain := by
  intro c s h ha
  cases s with
  | nil =>
      cases ha
  | cons x rest =>
      obtain ⟨a, pulled⟩ := x
      change a.plain = .halts h at ha
      cases a with
      | halts k =>
          cases hk : k.isSystem with
          | false =>
              rw [Answer.plain, hk] at ha
              cases ha
          | true =>
              rw [Answer.plain, hk] at ha
              cases ha
              cases h with
              | fault f =>
                  exact ⟨f, rfl, hk⟩
              | exit status =>
                  cases hk
      | _ =>
          cases ha

/-! ## One call on the library -/

/-- The held object after a dealing. -/
def Dealing.leaves (d : Dealing) (held : Option Bool) : Option Bool :=
  if d.pulled then held.map fun _ => false else held

@[simp] theorem Dealing.leaves_none
    (d : Dealing) :
    d.leaves none = none := by
  simp [leaves]

@[simp] theorem Dealing.isSome_leaves
    (d : Dealing)
    (held : Option Bool) :
    (d.leaves held).isSome = held.isSome := by
  cases hp : d.pulled <;> simp [leaves, hp]

namespace SerialLine

variable (lib : SerialLibrary σ) (c : SerialCall) (l : SerialLine σ)

/-- How the library deals with a call on a line. -/
def dealt : Dealing := ⟨c, (lib.respond c l.library).1, lib.unplugged c l.library⟩

/-- The line after a call on the library. -/
def after : SerialLine σ := ⟨(l.dealt lib c).leaves l.held, (lib.respond c l.library).2⟩

theorem ask_eq :
    ask lib c l = ⟨[.serial c], (l.dealt lib c).answer.ending, l.after lib c⟩ := by
  cases hp : lib.unplugged c l.library <;>
    simp [ask, after, dealt, Dealing.leaves, unplug, hp]

variable {lib c l}

theorem ask_of_success
    (h : (l.dealt lib c).answer.failure? = none) :
    ∃ got, (l.dealt lib c).answer.ending = .ok got
      ∧ ask lib c l = ⟨[.serial c], .ok got, l.after lib c⟩ := by
  obtain ⟨got, hgot⟩ := Answer.exists_ending_of_success h
  exact ⟨got, hgot, by rw [ask_eq, hgot]⟩

theorem ask_of_failure
    {f : Fault}
    (h : (l.dealt lib c).answer = .halts (.fault f)) :
    ask lib c l = ⟨[.serial c], .error (.fault f), l.after lib c⟩ := by
  rw [ask_eq, h]
  rfl

/-- What follows a call that succeeds. -/
theorem ask_bind
    {α : Type}
    {got : Option (List UInt8)}
    (f : Option (List UInt8) → Run (SerialLine σ) α)
    (h : ask lib c l = ⟨[.serial c], .ok got, l.after lib c⟩) :
    (ask lib c >>= f) l =
      ⟨.serial c :: (f got (l.after lib c)).trace, (f got (l.after lib c)).result,
        (f got (l.after lib c)).state⟩ := by
  have hok : (ask lib c l).result = .ok got := by rw [h]
  rw [Run.bind_of_ok hok, h]
  rfl

/-- Nothing follows a call that fails. -/
theorem ask_bind_of_failure
    {α : Type}
    {f : Fault}
    (next : Option (List UInt8) → Run (SerialLine σ) α)
    (h : (l.dealt lib c).answer = .halts (.fault f)) :
    (ask lib c >>= next) l = ⟨[.serial c], .error (.fault f), l.after lib c⟩ := by
  have hfailed := ask_of_failure h
  have herror : (ask lib c l).result = .error (.fault f) := by rw [hfailed]
  rw [Run.bind_of_error herror, hfailed]

/-- A call whose answer is not looked at. -/
def asked (lib : SerialLibrary σ) (c : SerialCall) : Run (SerialLine σ) Unit := do
  let _ ← ask lib c

theorem asked_of_success
    (h : (l.dealt lib c).answer.failure? = none) :
    asked lib c l = ⟨[.serial c], .ok (), l.after lib c⟩ := by
  obtain ⟨_, -, hask⟩ := ask_of_success h
  exact ask_bind _ hask

theorem asked_of_failure
    {f : Fault}
    (h : (l.dealt lib c).answer = .halts (.fault f)) :
    asked lib c l = ⟨[.serial c], .error (.fault f), l.after lib c⟩ :=
  ask_bind_of_failure _ h

end SerialLine

/-! ## How an opening goes -/

namespace SerialPort

/-- The call that asks the library for an object. -/
def acquiring (p : SerialPort) : SerialCall := .acquire p.name p.baud p.timeout

/-- What an opening reports of a fault. -/
def refusal (p : SerialPort) (f : Fault) : Fault :=
  if f.refusesOpening then complaint "Error opening " p f else f

/-- The line after an opening that failed: the object is given up if the port understands why. -/
def givenUp (f : Fault) (l : SerialLine σ) : SerialLine σ :=
  if f.refusesOpening then l.hold none else l

/-- The line with a new object handed out. -/
def handed (p : SerialPort) (lib : SerialLibrary σ) (l : SerialLine σ) : SerialLine σ :=
  (l.after lib p.acquiring).hold (some true)

/-- The ways of an opening. -/
inductive Opens (p : SerialPort) (lib : SerialLibrary σ) (l : SerialLine σ) :
    Report (SerialLine σ) Unit → Prop
  /-- No object is handed out. -/
  | denied
      (f : Fault)
      (hsystem : f.isSystem = true)
      (hdenied : (l.dealt lib p.acquiring).answer = .halts (.fault f)) :
      Opens p lib l ⟨[.serial p.acquiring], .error (.fault (p.refusal f)),
        givenUp f (l.after lib p.acquiring)⟩
  /-- What waits in the receive buffer cannot be dropped. -/
  | jammed
      (f : Fault)
      (hsystem : f.isSystem = true)
      (hhanded : (l.dealt lib p.acquiring).answer.failure? = none)
      (hjammed : ((p.handed lib l).dealt lib .resetInput).answer = .halts (.fault f)) :
      Opens p lib l ⟨[.serial p.acquiring, .serial .resetInput], .error (.fault (p.refusal f)),
        givenUp f ((p.handed lib l).after lib .resetInput)⟩
  /-- What waits to be sent cannot be dropped. -/
  | clogged
      (f : Fault)
      (hsystem : f.isSystem = true)
      (hhanded : (l.dealt lib p.acquiring).answer.failure? = none)
      (hemptied : ((p.handed lib l).dealt lib .resetInput).answer.failure? = none)
      (hclogged : (((p.handed lib l).after lib .resetInput).dealt lib .resetOutput).answer =
        .halts (.fault f)) :
      Opens p lib l ⟨[.serial p.acquiring, .serial .resetInput, .serial .resetOutput],
        .error (.fault (p.refusal f)),
        givenUp f (((p.handed lib l).after lib .resetInput).after lib .resetOutput)⟩
  /-- The port is open. -/
  | opened
      (hhanded : (l.dealt lib p.acquiring).answer.failure? = none)
      (hemptied : ((p.handed lib l).dealt lib .resetInput).answer.failure? = none)
      (hcleared : (((p.handed lib l).after lib .resetInput).dealt lib .resetOutput).answer.failure?
        = none) :
      Opens p lib l ⟨[.serial p.acquiring, .serial .resetInput, .serial .resetOutput,
          .slept settleTime,
          .log Level.info ("Opened " ++ p.name.display ++ " @ " ++ baudText p.baud ++ " bps")],
        .ok (), ((p.handed lib l).after lib .resetInput).after lib .resetOutput⟩

/-- The calls of an opening, before its failures are looked at. -/
def openingCalls (p : SerialPort) (lib : SerialLibrary σ) : Run (SerialLine σ) Unit := do
  let _ ← SerialLine.ask lib p.acquiring
  Run.change (SerialLine.hold (some true))
  let _ ← SerialLine.ask lib .resetInput
  let _ ← SerialLine.ask lib .resetOutput

/-- What an opening asks for once an object is handed out. -/
def emptying (lib : SerialLibrary σ) : Run (SerialLine σ) Unit := do
  let _ ← SerialLine.ask lib .resetInput
  SerialLine.asked lib .resetOutput

/-- What becomes of an opening whose calls fail. -/
def refusing (p : SerialPort) : Halt → Run (SerialLine σ) Unit
  | .fault f =>
      if f.refusesOpening then do
        Run.change (SerialLine.hold none)
        Run.fail (complaint "Error opening " p f)
      else Run.fail f
  | h => Run.halt h

/-- What an opening ends with whose calls succeed. -/
def ready (p : SerialPort) : Run (SerialLine σ) Unit := do
  Run.emit (.slept settleTime)
  Run.log Level.info ("Opened " ++ p.name.display ++ " @ " ++ baudText p.baud ++ " bps")

theorem connect_eq
    (p : SerialPort)
    (lib : SerialLibrary σ) :
    p.connect lib = Run.handle (p.openingCalls lib) p.refusing >>= fun _ => p.ready := rfl

variable {p : SerialPort} {lib : SerialLibrary σ} {l r : SerialLine σ} {t : Trace}

/-- An opening whose calls fail reports the failure and may give the object up. -/
theorem connect_of_failure
    {f : Fault}
    (h : p.openingCalls lib l = ⟨t, .error (.fault f), r⟩) :
    p.connect lib l = ⟨t, .error (.fault (p.refusal f)), givenUp f r⟩ := by
  have herror : (p.openingCalls lib l).result = .error (.fault f) := by rw [h]
  have hrefused : (p.refusing (.fault f) >>= fun _ => p.ready) r =
      ⟨[], .error (.fault (p.refusal f)), givenUp f r⟩ := by
    cases hf : f.refusesOpening <;> simp [refusing, refusal, givenUp, hf] <;> rfl
  rw [connect_eq, Run.handle_bind_of_error herror, h, hrefused, List.append_nil]

/-- An opening whose calls succeed rests and is logged. -/
theorem connect_of_success
    (h : p.openingCalls lib l = ⟨t, .ok (), r⟩) :
    p.connect lib l =
      ⟨t ++ [.slept settleTime,
        .log Level.info ("Opened " ++ p.name.display ++ " @ " ++ baudText p.baud ++ " bps")],
        .ok (), r⟩ := by
  have hok : (p.openingCalls lib l).result = .ok () := by rw [h]
  have hhandled := Run.handle_of_ok (f := p.refusing) hok
  rw [h] at hhandled
  have hresult := congrArg Report.result hhandled
  rw [connect_eq, Run.bind_of_ok hresult, hhandled]
  rfl

/-- Over a plain library an opening goes one of its ways. -/
theorem opens_connect
    (hlib : lib.Plain)
    (p : SerialPort)
    (l : SerialLine σ) :
    p.Opens lib l (p.connect lib l) := by
  let m := p.handed lib l
  let n := m.after lib .resetInput
  have hcalls : p.openingCalls lib = SerialLine.ask lib p.acquiring >>= fun _ =>
    Run.change (SerialLine.hold (some true)) >>= fun _ => emptying lib := rfl
  rcases hlib.cases p.acquiring l.library with hhanded | ⟨f, hdenied, hsystem⟩
  · obtain ⟨got, -, hask⟩ := SerialLine.ask_of_success (l := l) hhanded
    have hfirst : p.openingCalls lib l =
        ⟨.serial p.acquiring :: (emptying lib m).trace, (emptying lib m).result,
          (emptying lib m).state⟩ := by
      rw [hcalls, SerialLine.ask_bind _ hask]
      rfl
    rcases hlib.cases .resetInput m.library with hemptied | ⟨f, hjammed, hsystem⟩
    · obtain ⟨got, -, hask⟩ := SerialLine.ask_of_success (l := m) hemptied
      have hsecond : emptying lib m = ⟨.serial .resetInput :: _, _, _⟩ :=
        SerialLine.ask_bind _ hask
      rcases hlib.cases .resetOutput n.library with hcleared | ⟨f, hclogged, hsystem⟩
      · rw [SerialLine.asked_of_success hcleared] at hsecond
        rw [hsecond] at hfirst
        rw [connect_of_success hfirst]
        exact .opened hhanded hemptied hcleared
      · rw [SerialLine.asked_of_failure hclogged] at hsecond
        rw [hsecond] at hfirst
        rw [connect_of_failure hfirst]
        exact .clogged f hsystem hhanded hemptied hclogged
    · have hsecond : emptying lib m =
          ⟨[.serial .resetInput], .error (.fault f), m.after lib .resetInput⟩ :=
        SerialLine.ask_bind_of_failure _ hjammed
      rw [hsecond] at hfirst
      rw [connect_of_failure hfirst]
      exact .jammed f hsystem hhanded hjammed
  · have hfirst : p.openingCalls lib l =
        ⟨[.serial p.acquiring], .error (.fault f), l.after lib p.acquiring⟩ :=
      SerialLine.ask_bind_of_failure _ hdenied
    rw [connect_of_failure hfirst]
    exact .denied f hsystem hdenied

/-! ## Closing -/

theorem disconnect_of_none
    (p : SerialPort)
    (hnone : l.held = none) :
    p.disconnect lib l = ⟨[], .ok (), l⟩ := by
  obtain ⟨held, library⟩ := l
  cases hnone
  rfl

/-- What becomes of a closing that fails. -/
def tolerating (p : SerialPort) : Halt → Run (SerialLine σ) Unit
  | .fault f =>
      if f.isSystem then
        Run.log Level.warning ("Error closing " ++ p.name.display ++ ": " ++ f.message)
      else Run.fail f
  | h => Run.halt h

/-- The held object is released. -/
def releasing (lib : SerialLibrary σ) : Run (SerialLine σ) Unit := do
  let _ ← SerialLine.ask lib .release
  Run.change SerialLine.unplug

theorem disconnect_eq
    (p : SerialPort)
    (hheld : l.held.isSome = true) :
    p.disconnect lib l =
      (Run.handle (releasing lib) p.tolerating >>= fun _ => Run.change (SerialLine.hold none)) l := by
  obtain ⟨held, library⟩ := l
  cases held with
  | none =>
      cases hheld
  | some object =>
      rfl

/-- A held object is closed and given up, whether the closing fails or not. -/
theorem disconnect_of_held
    (hlib : lib.Plain)
    (p : SerialPort)
    (hheld : l.held.isSome = true) :
    ∃ note : Trace, (note = [] ∨ ∃ text, note = [.log Level.warning text])
      ∧ p.disconnect lib l =
        ⟨.serial .release :: note, .ok (), (l.after lib .release).hold none⟩ := by
  rw [disconnect_eq p hheld]
  rcases hlib.cases .release l.library with hreleased | ⟨f, hfailed, hsystem⟩
  · obtain ⟨got, -, hask⟩ := SerialLine.ask_of_success (l := l) hreleased
    have hrun : releasing lib l = ⟨[.serial .release], .ok (), (l.after lib .release).unplug⟩ :=
      SerialLine.ask_bind _ hask
    have hok : (releasing lib l).result = .ok () := by rw [hrun]
    have hhandled := Run.handle_of_ok (f := p.tolerating) hok
    have hresult := congrArg Report.result hhandled
    refine ⟨[], Or.inl rfl, ?_⟩
    rw [Run.bind_of_ok hresult, hhandled, hrun]
    rfl
  · have hrun : releasing lib l = ⟨[.serial .release], .error (.fault f), l.after lib .release⟩ :=
      SerialLine.ask_bind_of_failure _ hfailed
    have herror : (releasing lib l).result = .error (.fault f) := by rw [hrun]
    have hexcuse : (p.tolerating (.fault f) : Run (SerialLine σ) Unit) =
        Run.log Level.warning ("Error closing " ++ p.name.display ++ ": " ++ f.message) :=
      if_pos hsystem
    refine ⟨[_], Or.inr ⟨"Error closing " ++ p.name.display ++ ": " ++ f.message, rfl⟩, ?_⟩
    rw [Run.handle_bind_of_error herror, hrun, hexcuse]
    rfl

/-- Whatever is held, a closing returns and leaves nothing held. -/
theorem disconnect_closes
    (hlib : lib.Plain)
    (p : SerialPort)
    (l : SerialLine σ) :
    (p.disconnect lib l).result = .ok () ∧ (p.disconnect lib l).state.held = none := by
  cases hheld : l.held with
  | none =>
      rw [disconnect_of_none p hheld]
      exact ⟨rfl, hheld⟩
  | some object =>
      obtain ⟨note, -, hclosed⟩ := disconnect_of_held hlib p (l := l) (by rw [hheld]; rfl)
      rw [hclosed]
      exact ⟨rfl, rfl⟩

/-- Whatever the library is like, a closing that returns leaves nothing held. -/
theorem held_of_disconnect
    (p : SerialPort)
    (h : (p.disconnect lib l).result = .ok ()) :
    (p.disconnect lib l).state.held = none := by
  cases hheld : l.held with
  | none =>
      rw [disconnect_of_none p hheld]
      exact hheld
  | some object =>
      rw [disconnect_eq p (by rw [hheld]; rfl)] at h ⊢
      obtain ⟨_, hreleased, -⟩ := Run.ok_of_bind h
      rw [Run.bind_of_ok hreleased]
      rfl

end SerialPort

/-! ## Using the held object -/

/-- A call uses the held object and leaves it held. -/
def SerialCall.isUse : SerialCall → Bool
  | .acquire _ _ _ | .resetOutput | .release => false
  | _ => true

/-- Along a run on a line the library answers, every call uses the held object, and it is held
on as the dealings leave it. -/
def Passage.uses (lib : SerialLibrary σ) : Passage (SerialLine σ) where
  holds l t r :=
    t.library lib l.library = r.library
      ∧ (∀ d ∈ t.dealings lib l.library, d.call.isUse = true)
      ∧ r.held = (t.dealings lib l.library).foldl (fun held d => d.leaves held) l.held
  stay l := ⟨rfl, fun _ hd => (by cases hd), rfl⟩
  onward := by
    rintro l t r u q ⟨hlibrary, hcalls, hheld⟩ ⟨klibrary, kcalls, kheld⟩
    rw [Trace.library_append, Trace.dealings_append, hlibrary]
    refine ⟨klibrary, fun d hd => ?_, ?_⟩
    · rcases List.mem_append.mp hd with hd | hd
      · exact hcalls d hd
      · exact kcalls d hd
    · rw [List.foldl_append, ← hheld, kheld]

namespace SerialPort

variable {lib : SerialLibrary σ}

theorem uses_ask
    {c : SerialCall}
    (hc : c.isUse = true) :
    Run.Follows (.uses lib) (SerialLine.ask lib c) := by
  intro l
  rw [SerialLine.ask_eq]
  exact ⟨rfl, fun d hd => List.mem_singleton.mp hd ▸ hc, rfl⟩

theorem requireOpen_of_isOpen
    (p : SerialPort)
    {l : SerialLine σ}
    (h : l.isOpen = true) :
    p.requireOpen l = ⟨[], .ok (), l⟩ := by
  change (if l.isOpen then Run.give () else Run.fail _ : Run (SerialLine σ) Unit) l = _
  rw [h]
  rfl

theorem requireOpen_of_closed
    (p : SerialPort)
    {l : SerialLine σ}
    (h : l.isOpen = false) :
    p.requireOpen l =
      ⟨[], .error (.fault (.linkDown (p.name.display ++ " is not open"))), l⟩ := by
  change (if l.isOpen then Run.give () else Run.fail _ : Run (SerialLine σ) Unit) l = _
  rw [h]
  rfl

theorem uses_discard
    (p : SerialPort) :
    Run.Follows (.uses lib) (p.discard lib) :=
  p.follows_discard (uses_ask rfl)

theorem uses_send
    (p : SerialPort)
    (bs : List UInt8) :
    Run.Follows (.uses lib) (p.send lib bs) :=
  p.follows_send fun c hc => uses_ask <| by
    rcases List.mem_cons.mp hc with rfl | hc
    · rfl
    · exact List.mem_singleton.mp hc ▸ rfl

theorem uses_receive
    (p : SerialPort)
    (n : Int)
    (timeout : Value) :
    Run.Follows (.uses lib) (p.receive lib n timeout) :=
  p.follows_receive (fun _ => uses_ask rfl) (uses_ask rfl)

/-- The calls of a sending, before their failures are looked at. -/
def sendingCalls (lib : SerialLibrary σ) (bs : List UInt8) : Run (SerialLine σ) Unit := do
  let _ ← SerialLine.ask lib (.write bs)
  let _ ← SerialLine.ask lib .drain

/-- What becomes of a sending whose calls fail. -/
def regretting (p : SerialPort) : Halt → Run (SerialLine σ) Unit
  | .fault f =>
      if f.isSerialTimeout then Run.fail (.noReply ("Write timed out on " ++ p.name.display))
      else Run.fail (if f.isSystem then complaint "Write failed on " p f else f)
  | h => Run.halt h

/-- The ways of a sending. -/
inductive Sends (lib : SerialLibrary σ) (bs : List UInt8) (l : SerialLine σ) :
    Report (SerialLine σ) Unit → Prop
  /-- No open object is held. -/
  | closed
      (h : Halt)
      (hclosed : l.isOpen = false) :
      Sends lib bs l ⟨[], .error h, l⟩
  /-- The library does not take the bytes. -/
  | untaken
      (h : Halt)
      (f : Fault)
      (hopen : l.isOpen = true)
      (huntaken : (l.dealt lib (.write bs)).answer = .halts (.fault f)) :
      Sends lib bs l ⟨[.serial (.write bs)], .error h, l.after lib (.write bs)⟩
  /-- The library takes the bytes and does not bring them out. -/
  | stuck
      (h : Halt)
      (f : Fault)
      (hopen : l.isOpen = true)
      (htaken : (l.dealt lib (.write bs)).answer.failure? = none)
      (hstuck : ((l.after lib (.write bs)).dealt lib .drain).answer = .halts (.fault f)) :
      Sends lib bs l ⟨[.serial (.write bs), .serial .drain], .error h,
        (l.after lib (.write bs)).after lib .drain⟩
  /-- The bytes are out. -/
  | out
      (hopen : l.isOpen = true)
      (htaken : (l.dealt lib (.write bs)).answer.failure? = none)
      (hout : ((l.after lib (.write bs)).dealt lib .drain).answer.failure? = none) :
      Sends lib bs l ⟨[.serial (.write bs), .serial .drain], .ok (),
        (l.after lib (.write bs)).after lib .drain⟩

variable {bs : List UInt8} {l : SerialLine σ}

/-- A sending on an open line makes its calls and looks at their failures. -/
theorem send_of_isOpen
    (p : SerialPort)
    (hopen : l.isOpen = true) :
    p.send lib bs l = Run.handle (sendingCalls lib bs) p.regretting l := by
  have hrequire := p.requireOpen_of_isOpen hopen
  have hok := congrArg Report.result hrequire
  refine (Run.bind_of_ok hok).trans ?_
  rw [hrequire]
  rfl

/-- A sending whose calls fail reports some fault. -/
theorem exists_send_of_failure
    (p : SerialPort)
    {t : Trace}
    {f : Fault}
    {r : SerialLine σ}
    (hopen : l.isOpen = true)
    (h : sendingCalls lib bs l = ⟨t, .error (.fault f), r⟩) :
    ∃ g : Halt, p.send lib bs l = ⟨t, .error g, r⟩ := by
  obtain ⟨g, hg⟩ : ∃ g : Fault,
      (p.regretting (.fault f) : Run (SerialLine σ) Unit) = Run.fail g := by
    cases htimeout : f.isSerialTimeout with
    | true =>
        exact ⟨_, if_pos htimeout⟩
    | false =>
        exact ⟨_, if_neg (by simp [htimeout])⟩
  have herror : (sendingCalls lib bs l).result = .error (.fault f) := by rw [h]
  refine ⟨.fault g, ?_⟩
  rw [send_of_isOpen p hopen, Run.handle_of_error herror, h, hg]
  exact congrArg (Report.mk · _ _) (List.append_nil t)

/-- Over a plain library a sending goes one of its ways. -/
theorem sends_send
    (hlib : lib.Plain)
    (p : SerialPort)
    (bs : List UInt8)
    (l : SerialLine σ) :
    Sends lib bs l (p.send lib bs l) := by
  let m := l.after lib (.write bs)
  cases hopen : l.isOpen with
  | false =>
      have hrequire := p.requireOpen_of_closed hopen
      have herror := congrArg Report.result hrequire
      have hsend : p.send lib bs l = _ := Run.bind_of_error herror
      rw [hsend, hrequire]
      exact .closed _ hopen
  | true =>
      rcases hlib.cases (.write bs) l.library with htaken | ⟨f, huntaken, -⟩
      · obtain ⟨_, -, hask⟩ := SerialLine.ask_of_success (l := l) htaken
        have hfirst : sendingCalls lib bs l =
            ⟨.serial (.write bs) :: (SerialLine.asked lib .drain m).trace,
              (SerialLine.asked lib .drain m).result, (SerialLine.asked lib .drain m).state⟩ :=
          SerialLine.ask_bind _ hask
        rcases hlib.cases .drain m.library with hout | ⟨f, hstuck, -⟩
        · rw [SerialLine.asked_of_success hout] at hfirst
          have hok : (sendingCalls lib bs l).result = .ok () := by rw [hfirst]
          rw [send_of_isOpen p hopen, Run.handle_of_ok hok, hfirst]
          exact .out hopen htaken hout
        · rw [SerialLine.asked_of_failure hstuck] at hfirst
          obtain ⟨h, hh⟩ := exists_send_of_failure p hopen hfirst
          rw [hh]
          exact .stuck h f hopen htaken hstuck
      · have hfirst : sendingCalls lib bs l = ⟨[.serial (.write bs)], .error (.fault f), m⟩ :=
          SerialLine.ask_bind_of_failure _ huntaken
        obtain ⟨h, hh⟩ := exists_send_of_failure p hopen hfirst
        rw [hh]
        exact .untaken h f hopen huntaken

end SerialPort

end AcceptorHost
