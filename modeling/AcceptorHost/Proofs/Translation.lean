import AcceptorHost.Proofs.Confinement
import AcceptorHost.Proofs.Openings

/-!
# What a serial port tells its callers of failures

Callers of a port know two failures, no reply in time and a link that is down.  A serial port
over a plain library makes one of them of whatever fails, with two exceptions.  An opening
lets a failure of the operating system through that is none of the serial line, and keeps the
object if it was handed out before.  A reading that falls short shows its timeout, and one
that is no number cannot be shown.  `call_translates_iff` says that these are all.
-/

namespace AcceptorHost

/-- A halt is one of the failures that callers of a port know. -/
def Halt.isKnown : Halt → Bool
  | .fault (.noReply _) | .fault (.linkDown _) => true
  | _ => false

theorem Halt.isFault_of_isKnown
    {h : Halt}
    (hknown : h.isKnown = true) :
    h.isFault = true := by
  cases h with
  | fault f =>
      rfl
  | exit status =>
      cases hknown

theorem Halt.isFault_of_isSystem
    {h : Halt}
    (hsystem : h.isSystem = true) :
    h.isFault = true := by
  cases h with
  | fault f =>
      rfl
  | exit status =>
      cases hsystem

/-- A library fails outside of the serial line. -/
def Dealing.failsOutside (d : Dealing) : Bool :=
  match d.answer with
  | .halts (.fault (.device .system _)) => true
  | _ => false

/-- What a call on a port does. -/
def Port.call {σ : Type} (port : Port σ) : PortCall → Run σ (Option (List UInt8))
  | .connect => do
      port.connect
      Run.give none
  | .disconnect => do
      port.disconnect
      Run.give none
  | .discard => do
      port.discard
      Run.give none
  | .send bs => do
      port.send bs
      Run.give none
  | .receive n timeout => port.receive n timeout

variable {σ : Type}

/-- An operation that returns nothing ends as a call as it does itself. -/
theorem Run.bind_none
    (x : Run σ Unit)
    (s : σ) :
    (x >>= fun _ => Run.give (none : Option (List UInt8))) s =
      ⟨(x s).trace, (x s).result.map fun _ => none, (x s).state⟩ :=
  Run.bind_give (fun _ => none) x s

namespace SerialPort

variable {lib : SerialLibrary σ} {l : SerialLine σ}

/-- A call on a serial port returns or fails as its callers know; a closing returns, a failed
opening leaves no object held and the port closed, and any other call that fails uses the held
object and leaves it held as the library does. -/
structure Translates (p : SerialPort) (lib : SerialLibrary σ) (c : PortCall) (l : SerialLine σ) :
    Prop where
  known : ∀ h, ((p.port lib).call c l).result = .error h → h.isKnown = true
  closes : c = .disconnect → ((p.port lib).call c l).result = .ok none
  givesUp : c = .connect → ∀ h, ((p.port lib).call c l).result = .error h →
    ((p.port lib).call c l).state.held = none
      ∧ (p.port lib).isOpen ((p.port lib).call c l).state = false
  holdsOn : c ≠ .connect → ∀ h, ((p.port lib).call c l).result = .error h →
    let ds := ((p.port lib).call c l).trace.dealings lib l.library
    (∀ d ∈ ds, d.call.isUse = true)
      ∧ ((p.port lib).call c l).state.held = ds.foldl (fun held d => d.leaves held) l.held

/-- The timeout of a reading: the port's own if none is given. -/
def within (p : SerialPort) (timeout : Value) : Value :=
  if timeout = .null then p.timeout else timeout

/-- Dealings that a call on a serial port does not translate: an opening fails outside of the
serial line, or a reading falls short within a timeout that is no number. -/
def Slips (p : SerialPort) (ds : List Dealing) : PortCall → Prop
  | .connect => ∃ d ∈ ds, d.failsOutside = true
  | .receive n timeout =>
      (∃ f, timeoutText (p.within timeout) = .error f)
        ∧ ∃ d ∈ ds, d.call = .read n
          ∧ ∃ got : Option (List UInt8),
            d.answer.ending = .ok got ∧ ((got.getD []).length : Int) ≠ n
  | _ => False

/-! ## Openings -/

theorem failsOutside_of_success
    {d : Dealing}
    (h : d.answer.failure? = none) :
    d.failsOutside = false := by
  obtain ⟨c, a, pulled⟩ := d
  cases a with
  | halts k =>
      cases h
  | _ =>
      rfl

/-- What the port does not understand about an opening is a failure outside of the line. -/
theorem failsOutside_of_failure
    {d : Dealing}
    {f : Fault}
    (h : d.answer = .halts (.fault f))
    (hsystem : f.isSystem = true) :
    d.failsOutside = !f.refusesOpening := by
  obtain ⟨c, a, pulled⟩ := d
  cases h
  cases f with
  | device k text =>
      cases k with
      | runtime =>
          cases hsystem
      | badValue =>
          cases hsystem
      | _ =>
          rfl
  | _ =>
      cases hsystem

/-- What a failed opening reports is known just if the port understands it. -/
theorem isKnown_refusal
    (p : SerialPort)
    {f : Fault}
    (hsystem : f.isSystem = true) :
    (Halt.fault (p.refusal f)).isKnown = f.refusesOpening := by
  cases hrefuses : f.refusesOpening with
  | true =>
      rw [refusal, if_pos hrefuses]
      rfl
  | false =>
      rw [refusal, if_neg (by simp [hrefuses])]
      cases f with
      | device k text =>
          rfl
      | _ =>
          cases hsystem

/-- An opening returns and nothing fails in it, or its last call fails and that is reported. -/
theorem Opens.ends
    {p : SerialPort}
    {r : Report (SerialLine σ) Unit}
    (h : p.Opens lib l r) :
    (r.result = .ok () ∧ ∀ d ∈ r.trace.dealings lib l.library, d.failsOutside = false)
      ∨ ∃ (f : Fault) (before : List Dealing) (d : Dealing) (m : SerialLine σ),
        f.isSystem = true
          ∧ r.result = .error (.fault (p.refusal f))
          ∧ r.state = givenUp f m
          ∧ r.trace.dealings lib l.library = before ++ [d]
          ∧ d.answer = .halts (.fault f)
          ∧ ∀ e ∈ before, e.failsOutside = false := by
  cases h with
  | denied f hsystem hdenied =>
      exact Or.inr ⟨f, [], _, _, hsystem, rfl, rfl, rfl, hdenied, fun e he => by cases he⟩
  | jammed f hsystem hhanded hjammed =>
      refine Or.inr ⟨f, [_], _, _, hsystem, rfl, rfl, rfl, hjammed, fun e he => ?_⟩
      exact List.mem_singleton.mp he ▸ failsOutside_of_success hhanded
  | clogged f hsystem hhanded hemptied hclogged =>
      refine Or.inr ⟨f, [_, _], _, _, hsystem, rfl, rfl, rfl, hclogged, fun e he => ?_⟩
      rcases List.mem_cons.mp he with rfl | he
      · exact failsOutside_of_success hhanded
      · exact List.mem_singleton.mp he ▸ failsOutside_of_success hemptied
  | opened hhanded hemptied hcleared =>
      refine Or.inl ⟨rfl, fun e he => ?_⟩
      rcases List.mem_cons.mp he with rfl | he
      · exact failsOutside_of_success hhanded
      rcases List.mem_cons.mp he with rfl | he
      · exact failsOutside_of_success hemptied
      · exact List.mem_singleton.mp he ▸ failsOutside_of_success hcleared

/-- An opening that fails in its last call slips just if the port does not understand the
failure. -/
theorem slips_connect_iff
    (p : SerialPort)
    {f : Fault}
    {before : List Dealing}
    {d : Dealing}
    (hsystem : f.isSystem = true)
    (hanswer : d.answer = .halts (.fault f))
    (hbefore : ∀ e ∈ before, e.failsOutside = false) :
    p.Slips (before ++ [d]) .connect ↔ f.refusesOpening = false := by
  have hd := failsOutside_of_failure hanswer hsystem
  constructor
  · rintro ⟨e, he, hfails⟩
    rcases List.mem_append.mp he with he | he
    · rw [hbefore e he] at hfails
      cases hfails
    · rw [List.mem_singleton.mp he, hd] at hfails
      simpa using hfails
  · intro hrefuses
    exact ⟨d, List.mem_append_right _ List.mem_cons_self, by rw [hd, hrefuses]; rfl⟩

/-- An opening is translated just if no call of it fails outside of the serial line. -/
theorem connect_translates_iff
    (hlib : lib.Plain)
    (p : SerialPort)
    (l : SerialLine σ) :
    p.Translates lib .connect l ↔
      ¬ p.Slips (((p.port lib).call .connect l).trace.dealings lib l.library) .connect := by
  have hcall : (p.port lib).call .connect l =
      ⟨(p.connect lib l).trace, (p.connect lib l).result.map fun _ => none,
        (p.connect lib l).state⟩ := Run.bind_none (p.connect lib) l
  have hother : PortCall.connect ≠ .disconnect := by decide
  rcases (opens_connect hlib p l).ends with ⟨hok, hnone⟩ | ⟨f, before, d, m, hsystem, herror,
      hstate, hdealings, hanswer, hbefore⟩
  · have hreturns : ∀ h, ((p.port lib).call .connect l).result ≠ .error h := by
      intro h hr
      rw [hcall, hok] at hr
      cases hr
    refine iff_of_true ⟨fun h hr => (hreturns h hr).elim, fun hc => (hother hc).elim,
      fun _ h hr => (hreturns h hr).elim, fun hc => (hc rfl).elim⟩ ?_
    rintro ⟨d, hd, hfails⟩
    rw [hcall] at hd
    rw [hnone d hd] at hfails
    cases hfails
  · have hresult : ((p.port lib).call .connect l).result = .error (.fault (p.refusal f)) := by
      rw [hcall, herror]
      rfl
    have htrace : ((p.port lib).call .connect l).trace.dealings lib l.library = before ++ [d] := by
      rw [hcall, hdealings]
    rw [htrace, slips_connect_iff p hsystem hanswer hbefore, Bool.not_eq_false,
      ← isKnown_refusal p hsystem]
    refine ⟨fun h => h.known _ hresult, fun hknown => ?_⟩
    have hrefuses := (isKnown_refusal p hsystem).symm.trans hknown
    have hnone : ((p.port lib).call .connect l).state = m.hold none := by
      rw [hcall, hstate, givenUp, if_pos hrefuses]
    refine ⟨fun h hr => ?_, fun hc => (hother hc).elim, fun _ h _ => ?_, fun hc => (hc rfl).elim⟩
    · rw [hresult] at hr
      cases hr
      exact hknown
    · rw [hnone]
      exact ⟨rfl, rfl⟩

/-! ## Failures of the other calls -/

/-- From anywhere a run halts only as callers of a port know. -/
abbrev Known {α : Type} (x : Run (SerialLine σ) α) : Prop :=
  Run.Confined (fun _ => True) (fun h => h.isKnown = true) x

theorem confined_ask
    (hlib : lib.Plain)
    (c : SerialCall) :
    Run.Confined (fun _ => True) (fun h => h.isSystem = true) (SerialLine.ask lib c) := by
  intro l _
  refine ⟨trivial, fun h hr => ?_⟩
  rw [SerialLine.ask_eq] at hr
  rcases hlib.cases c l.library with hsuccess | ⟨f, hfailed, hsystem⟩
  · obtain ⟨got, hgot⟩ := Answer.exists_ending_of_success hsuccess
    have hok := hgot.symm.trans hr
    cases hok
  · have herror := (congrArg Answer.ending hfailed).symm.trans hr
    cases herror
    exact hsystem

theorem known_requireOpen
    (p : SerialPort) :
    Known (p.requireOpen : Run (SerialLine σ) Unit) :=
  (Run.Confined.look _).bind fun _ => (Run.Confined.give ()).ite (.halt rfl)

theorem known_complaint
    (p : SerialPort)
    (what : String)
    {f : Fault}
    (hsystem : f.isSystem = true) :
    Known (Run.fail (if f.isSystem then complaint what p f else f) : Run (SerialLine σ) Unit) := by
  rw [if_pos hsystem]
  exact .halt rfl

theorem known_discard
    (hlib : lib.Plain)
    (p : SerialPort) :
    Known (p.discard lib) := by
  have hcalls := (confined_ask hlib .resetInput).bind fun _ => Run.Confined.give ()
  refine (Run.Confined.look _).bind fun _ => .ite (hcalls.handle fun h hsystem => ?_) (.give ())
  cases h with
  | fault f =>
      exact known_complaint p _ hsystem
  | exit status =>
      cases hsystem

theorem known_send
    (hlib : lib.Plain)
    (p : SerialPort)
    (bs : List UInt8) :
    Known (p.send lib bs) := by
  have hcalls := (confined_ask hlib (.write bs)).bind fun _ =>
    (confined_ask hlib .drain).bind fun _ => Run.Confined.give ()
  refine (known_requireOpen p).bind fun _ => hcalls.handle fun h hsystem => ?_
  cases h with
  | fault f =>
      exact Run.Confined.ite (.halt rfl) (known_complaint p _ hsystem)
  | exit status =>
      cases hsystem

/-- A call that uses the held object is translated if its failures are known. -/
theorem translates_of_uses
    {p : SerialPort}
    {c : PortCall}
    (hconnect : c ≠ .connect)
    (hdisconnect : c ≠ .disconnect)
    (hknown : ∀ h, ((p.port lib).call c l).result = .error h → h.isKnown = true)
    (huses :
      (Passage.uses lib).holds l ((p.port lib).call c l).trace ((p.port lib).call c l).state) :
    p.Translates lib c l where
  known := hknown
  closes hc := (hdisconnect hc).elim
  givesUp hc := (hconnect hc).elim
  holdsOn _ _ _ := huses.2

/-! ## Readings -/

/-- What a reading that fails reports. -/
def excused (p : SerialPort) : Halt → Run (SerialLine σ) (List UInt8)
  | .fault f => Run.fail (if f.isSystem then complaint "Read failed on " p f else f)
  | h => Run.halt h

/-- The library's part of a reading. -/
def reading (lib : SerialLibrary σ) (within : Value) (n : Int) :
    Run (SerialLine σ) (List UInt8) := do
  let _ ← SerialLine.ask lib (.setTimeout within)
  let r ← SerialLine.ask lib (.read n)
  Run.give (r.getD [])

/-- The call that reads, and the bytes that it gives. -/
def taking (lib : SerialLibrary σ) (n : Int) : Run (SerialLine σ) (List UInt8) := do
  let r ← SerialLine.ask lib (.read n)
  Run.give (r.getD [])

/-- A reading goes on with its call once the time it may take is set. -/
theorem reading_of_ask
    {within : Value}
    {l : SerialLine σ}
    {got : Option (List UInt8)}
    (n : Int)
    (h : SerialLine.ask lib (.setTimeout within) l =
      ⟨[.serial (.setTimeout within)], .ok got, l.after lib (.setTimeout within)⟩) :
    let r := taking lib n (l.after lib (.setTimeout within))
    reading lib within n l = ⟨.serial (.setTimeout within) :: r.trace, r.result, r.state⟩ :=
  SerialLine.ask_bind _ h

/-- What is made of the bytes that were read. -/
def judged (p : SerialPort) (timeout : Value) (n : Int) (bs : List UInt8) :
    Run (SerialLine σ) (Option (List UInt8)) :=
  if (bs.length : Int) = n then Run.give (some bs)
  else do
    let text ← Run.ofExcept (timeoutText (p.within timeout))
    Run.fail (p.shortfall bs.length n text)

/-- A reading fails, or it returns what the library has answered. -/
theorem reading_ends
    (hlib : lib.Plain)
    (within : Value)
    (n : Int)
    (l : SerialLine σ) :
    let ds := (reading lib within n l).trace.dealings lib l.library
    (∃ f : Fault, f.isSystem = true ∧ (reading lib within n l).result = .error (.fault f)
        ∧ ∀ d ∈ ds, d.call = .read n → d.answer = .halts (.fault f))
      ∨ ∃ got, (reading lib within n l).result = .ok (got.getD [])
        ∧ (∃ d ∈ ds, d.call = .read n)
        ∧ ∀ d ∈ ds, d.call = .read n → d.answer.ending = .ok got := by
  let m := l.after lib (.setTimeout within)
  rcases hlib.cases (.setTimeout within) l.library with hset | ⟨f, hfailed, hsystem⟩
  · obtain ⟨_, -, hask⟩ := SerialLine.ask_of_success (l := l) hset
    have hfirst : reading lib within n l = _ := reading_of_ask n hask
    rcases hlib.cases (.read n) m.library with hread | ⟨f, hfailed, hsystem⟩
    · obtain ⟨got, hgot, hask⟩ := SerialLine.ask_of_success (l := m) hread
      have hsecond : taking lib n m =
          ⟨[.serial (.read n)], .ok (got.getD []), m.after lib (.read n)⟩ :=
        SerialLine.ask_bind _ hask
      rw [hfirst, hsecond]
      refine Or.inr ⟨got, rfl, ⟨m.dealt lib (.read n), ?_, rfl⟩, fun d hd hcall => ?_⟩
      · exact List.mem_cons_of_mem _ List.mem_cons_self
      · rcases List.mem_cons.mp hd with rfl | hd
        · cases hcall
        · exact List.mem_singleton.mp hd ▸ hgot
    · have hsecond : taking lib n m =
          ⟨[.serial (.read n)], .error (.fault f), m.after lib (.read n)⟩ :=
        SerialLine.ask_bind_of_failure _ hfailed
      rw [hfirst, hsecond]
      refine Or.inl ⟨f, hsystem, rfl, fun d hd hcall => ?_⟩
      rcases List.mem_cons.mp hd with rfl | hd
      · cases hcall
      · exact List.mem_singleton.mp hd ▸ hfailed
  · have hfirst : reading lib within n l =
        ⟨[.serial (.setTimeout within)], .error (.fault f), m⟩ :=
      SerialLine.ask_bind_of_failure _ hfailed
    rw [hfirst]
    refine Or.inl ⟨f, hsystem, rfl, fun d hd hcall => ?_⟩
    rw [List.mem_singleton.mp hd] at hcall
    cases hcall

theorem isKnown_of_number
    {v : Value}
    {f : Fault}
    (h : v.number = .error f) :
    (Halt.fault f).isKnown = false := by
  unfold Value.number at h
  split at h
  · cases h
  · split at h
    · cases h
      rfl
    · split at h
      · cases h
        rfl
      · cases h

/-- A timeout that cannot be shown fails in no way that callers of a port know. -/
theorem isKnown_of_timeoutText
    {v : Value}
    {f : Fault}
    (h : timeoutText v = .error f) :
    (Halt.fault f).isKnown = false := by
  unfold timeoutText at h
  split at h
  · cases h
    rfl
  · cases hv : v.number with
    | ok x =>
        rw [hv] at h
        cases h
    | error g =>
        rw [hv] at h
        cases h
        exact isKnown_of_number hv

theorem receive_of_closed
    (p : SerialPort)
    (n : Int)
    (timeout : Value)
    (hclosed : l.isOpen = false) :
    p.receive lib n timeout l =
      ⟨[], .error (.fault (.linkDown (p.name.display ++ " is not open"))), l⟩ := by
  have hrequire := p.requireOpen_of_closed hclosed
  have herror := congrArg Report.result hrequire
  unfold receive
  rw [Run.bind_of_error herror, hrequire]

/-- A receiving on an open line reads and judges what was read. -/
theorem receive_of_isOpen
    (p : SerialPort)
    (n : Int)
    (timeout : Value)
    (hopen : l.isOpen = true) :
    p.receive lib n timeout l =
      (Run.handle (reading lib (p.within timeout) n) (excused p) >>= p.judged timeout n) l := by
  have hrequire := p.requireOpen_of_isOpen hopen
  have hok := congrArg Report.result hrequire
  unfold receive
  rw [Run.bind_of_ok hok, hrequire]
  rfl

/-- A reading that fails is reported as a link that is down. -/
theorem receive_of_failure
    {p : SerialPort}
    {n : Int}
    {timeout : Value}
    {f : Fault}
    (hopen : l.isOpen = true)
    (hsystem : f.isSystem = true)
    (hfailed : (reading lib (p.within timeout) n l).result = .error (.fault f)) :
    let r := p.receive lib n timeout l
    r.trace = (reading lib (p.within timeout) n l).trace
      ∧ r.result = .error (.fault (complaint "Read failed on " p f)) := by
  have hexcuse : (excused p (.fault f) : Run (SerialLine σ) (List UInt8)) =
      Run.fail (complaint "Read failed on " p f) := congrArg Run.fail (if_pos hsystem)
  rw [receive_of_isOpen p n timeout hopen, Run.handle_bind_of_error hfailed, hexcuse]
  exact ⟨List.append_nil _, rfl⟩

/-- What is read is judged by its length, and a shortfall shows the timeout. -/
theorem receive_of_reading
    {p : SerialPort}
    {n : Int}
    {timeout : Value}
    {bs : List UInt8}
    (hopen : l.isOpen = true)
    (hread : (reading lib (p.within timeout) n l).result = .ok bs) :
    let r := p.receive lib n timeout l
    r.trace = (reading lib (p.within timeout) n l).trace
      ∧ r.result = if (bs.length : Int) = n then .ok (some bs)
        else match timeoutText (p.within timeout) with
          | .ok text => .error (.fault (p.shortfall bs.length n text))
          | .error f => .error (.fault f) := by
  have hhandled := Run.handle_of_ok (f := excused p) hread
  have hresult := congrArg Report.result hhandled
  rw [receive_of_isOpen p n timeout hopen, Run.bind_of_ok hresult, hhandled]
  by_cases hlength : (bs.length : Int) = n
  · rw [if_pos hlength, judged, if_pos hlength]
    exact ⟨List.append_nil _, rfl⟩
  · rw [if_neg hlength, judged, if_neg hlength]
    cases htext : timeoutText (p.within timeout) with
    | ok text =>
        exact ⟨List.append_nil _, rfl⟩
    | error f =>
        exact ⟨List.append_nil _, rfl⟩

/-- A run that returns fails in no way, known or not. -/
theorem known_of_ok
    {α : Type}
    {r : Report σ α}
    {a : α}
    (h : r.result = .ok a) :
    ∀ k, r.result = .error k → k.isKnown = true := by
  intro k hk
  rw [h] at hk
  cases hk

theorem known_iff_of_error
    {α : Type}
    {r : Report σ α}
    {h : Halt}
    (hr : r.result = .error h) :
    (∀ k, r.result = .error k → k.isKnown = true) ↔ h.isKnown = true := by
  refine ⟨fun hknown => hknown h hr, fun hknown k hk => ?_⟩
  rw [hr] at hk
  cases hk
  exact hknown

/-- A receiving fails as its callers know just if it does not fall short within a timeout that
cannot be shown. -/
theorem receive_known_iff
    (hlib : lib.Plain)
    (p : SerialPort)
    (n : Int)
    (timeout : Value)
    (l : SerialLine σ) :
    let r := p.receive lib n timeout l
    (∀ h, r.result = .error h → h.isKnown = true) ↔
      ¬ p.Slips (r.trace.dealings lib l.library) (.receive n timeout) := by
  intro r
  cases hopen : l.isOpen with
  | false =>
      have hr : r = _ := receive_of_closed p n timeout hopen
      have hresult := congrArg Report.result hr
      refine iff_of_true ((known_iff_of_error hresult).mpr rfl) ?_
      rw [hr]
      rintro ⟨-, d, hd, -⟩
      cases hd
  | true =>
      rcases reading_ends hlib (p.within timeout) n l with
        ⟨f, hsystem, hfailed, hread⟩ | ⟨got, hok, ⟨d, hd, hcall⟩, hread⟩
      · obtain ⟨htrace, hresult⟩ := receive_of_failure hopen hsystem hfailed
        refine iff_of_true ((known_iff_of_error hresult).mpr rfl) ?_
        rintro ⟨-, e, he, hcall, got, hgot, -⟩
        rw [htrace] at he
        rw [hread e he hcall] at hgot
        cases hgot
      · obtain ⟨htrace, hresult⟩ := receive_of_reading hopen hok
        -- The timeout is shown of a shortfall only, so elsewhere it does not matter what it is.
        by_cases hlength : ((got.getD []).length : Int) = n
        · rw [if_pos hlength] at hresult
          refine iff_of_true (known_of_ok hresult) ?_
          rintro ⟨-, e, he, hcall, other, hother, hshort⟩
          rw [htrace] at he
          rw [hread e he hcall] at hother
          cases hother
          exact hshort hlength
        · rw [if_neg hlength] at hresult
          cases htext : timeoutText (p.within timeout) with
          | ok text =>
              rw [htext] at hresult
              refine iff_of_true ((known_iff_of_error hresult).mpr rfl) ?_
              rintro ⟨⟨f, hf⟩, -⟩
              rw [htext] at hf
              cases hf
          | error f =>
              rw [htext] at hresult
              rw [known_iff_of_error hresult, isKnown_of_timeoutText htext]
              refine iff_of_false Bool.false_ne_true fun h => h ?_
              rw [htrace]
              exact ⟨⟨f, htext⟩, d, hd, hcall, got, hread d hd hcall, hlength⟩

/-! ## Every call -/

/-- Over a plain library a call on a serial port is translated, whatever its line holds, unless
an opening fails outside of the serial line or a reading falls short within a timeout that
cannot be shown; then it is not. -/
theorem call_translates_iff
    (hlib : lib.Plain)
    (p : SerialPort)
    (c : PortCall)
    (l : SerialLine σ) :
    p.Translates lib c l ↔
      ¬ p.Slips (((p.port lib).call c l).trace.dealings lib l.library) c := by
  cases c with
  | connect =>
      exact connect_translates_iff hlib p l
  | disconnect =>
      have hcall : (p.port lib).call .disconnect l = _ := Run.bind_none (p.disconnect lib) l
      have hok := (disconnect_closes hlib p l).1
      have hresult : ((p.port lib).call .disconnect l).result = .ok none := by
        rw [hcall, hok]
        rfl
      have hreturns : ∀ h, ((p.port lib).call .disconnect l).result ≠ .error h := by
        intro h hr
        rw [hresult] at hr
        cases hr
      exact iff_of_true ⟨fun h hr => (hreturns h hr).elim, fun _ => hresult,
        fun hc => absurd hc (by decide), fun _ h hr => (hreturns h hr).elim⟩ id
  | discard =>
      have hcall : (p.port lib).call .discard l = _ := Run.bind_none (p.discard lib) l
      have hknown : Known ((p.port lib).call .discard) :=
        (known_discard hlib p).bind fun _ => .give none
      refine iff_of_true (translates_of_uses (by decide) (by decide) (hknown l trivial).2 ?_) id
      rw [hcall]
      exact uses_discard p l
  | send bs =>
      have hcall : (p.port lib).call (.send bs) l = _ := Run.bind_none (p.send lib bs) l
      have hknown : Known ((p.port lib).call (.send bs)) :=
        (known_send hlib p bs).bind fun _ => .give none
      refine iff_of_true (translates_of_uses (by simp) (by simp) (hknown l trivial).2 ?_) id
      rw [hcall]
      exact uses_send p bs l
  | receive n timeout =>
      refine Iff.trans ⟨Translates.known, fun hknown => ?_⟩ (receive_known_iff hlib p n timeout l)
      exact translates_of_uses (by simp) (by simp) hknown (uses_receive p n timeout l)

/-- An opening that the line fails in is translated, and no object is held after it. -/
theorem call_translates_refused :
    let p : SerialPort := ⟨.text "dev0", .int 9600, .float usualTimeout⟩
    let l : SerialLine _ := ⟨none, [(.nothing, false),
      (.halts (.fault (.device .serial "boom")), false)]⟩
    p.Translates .ofAnswers .connect l
      ∧ (p.connect .ofAnswers l).result =
        .error (.fault (complaint "Error opening " p (.device .serial "boom"))) := by
  intro p l
  refine ⟨(call_translates_iff SerialLibrary.ofAnswers_plain p .connect l).mpr ?_, rfl⟩
  have hdealings : ((p.port .ofAnswers).call .connect l).trace.dealings .ofAnswers l.library =
      [⟨p.acquiring, .nothing, false⟩,
        ⟨.resetInput, .halts (.fault (.device .serial "boom")), false⟩] := rfl
  rw [hdealings]
  rintro ⟨d, hd, hfails⟩
  rcases List.mem_cons.mp hd with rfl | hd
  · cases hfails
  · rw [List.mem_singleton.mp hd] at hfails
    cases hfails

/-- An opening lets a failure of the operating system through and keeps the object open. -/
theorem opening_escapes_untranslated :
    let p : SerialPort := ⟨.text "dev0", .int 9600, .float usualTimeout⟩
    let l : SerialLine _ := ⟨none, [(.nothing, false),
      (.halts (.fault (.device .system "boom")), false)]⟩
    (SerialLibrary.ofAnswers.Plain ∧ ¬ p.Translates .ofAnswers .connect l)
      ∧ (p.connect .ofAnswers l).result = .error (.fault (.device .system "boom"))
      ∧ (p.connect .ofAnswers l).state.held = some true := by
  intro p l
  refine ⟨⟨SerialLibrary.ofAnswers_plain, fun h => ?_⟩, rfl, rfl⟩
  have hknown := h.known (.fault (.device .system "boom")) rfl
  cases hknown

/-! ## Dependable ports -/

/-- A reading halts only in a fault, be it one that its callers do not know. -/
theorem contained_receive
    (hlib : lib.Plain)
    (p : SerialPort)
    (n : Int)
    (timeout : Value) :
    Run.Confined (fun _ => True) Halt.Contained (p.receive lib n timeout) := by
  have hask (c : SerialCall) :
      Run.Confined (fun _ => True) Halt.Contained (SerialLine.ask lib c) :=
    (confined_ask hlib c).mono fun _ => Halt.isFault_of_isSystem
  refine ((known_requireOpen p).mono fun _ => Halt.isFault_of_isKnown).bind fun _ =>
    (Run.Confined.handle_faults ?_ fun _ => ?_).bind fun got => ?_
  · exact (hask _).bind fun _ => (hask _).bind fun _ => .give _
  · exact .halt rfl
  · exact (Run.Confined.give _).ite
      ((Run.Confined.ofExcept fun _ _ => rfl).bind fun _ => .halt rfl)

/-- A serial port over a plain library is dependable. -/
theorem dependable
    (hlib : lib.Plain)
    (p : SerialPort) :
    (p.port lib).Dependable where
  closes l := (disconnect_closes hlib p l).1
  closed l := by
    change (p.disconnect lib l).state.isOpen = false
    rw [SerialLine.isOpen, (disconnect_closes hlib p l).2]
    rfl
  connect l h hr := by
    change (p.connect lib l).result = .error h at hr
    have hopens := opens_connect hlib p l
    generalize p.connect lib l = r at hopens hr
    cases hopens <;> cases hr <;> rfl
  discard l h hr := Halt.isFault_of_isKnown ((known_discard hlib p l trivial).2 h hr)
  send bs l h hr := Halt.isFault_of_isKnown ((known_send hlib p bs l trivial).2 h hr)
  receive n timeout l := (contained_receive hlib p n timeout l trivial).2

end SerialPort

end AcceptorHost
