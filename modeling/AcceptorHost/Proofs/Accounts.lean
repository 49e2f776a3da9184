import AcceptorHost.Proofs.Chronicle
import AcceptorHost.Proofs.Courtesy
import AcceptorHost.Proofs.TickCases

/-!
# Every tick is accounted for

The calls of an exchange bear out its result: they all do what they are for, or the
last one lets the exchange down and the others do not.  A tick whose link is down
closes the port, and this call stands outside of all that is contained: where it
halts, the tick halts with it and nothing is accounted for.  Every other tick returns
and leaves the health and the count of failures that its calls bear out.
-/

namespace AcceptorHost

namespace Act

/-- How a call lets down its caller: it halts, or it reads no bytes. -/
def letdown? : PortCall × Answer → Option Halt
  | (_, .halts h) => some h
  | (.receive _ _, .nothing) => some (.fault .wrongType)
  | _ => none

/-- A call does what it is for. -/
def succeeds (x : PortCall × Answer) : Bool := (letdown? x).isNone

/-- Calls all succeed before a result, and all but the last one before a halt. -/
def BearOut
    {α : Type}
    (calls : List (PortCall × Answer)) :
    Except Halt α → Prop
  | .ok _ => calls.all succeeds = true
  | .error h => ∃ init x, calls = init ++ [x] ∧ init.all succeeds = true ∧ letdown? x = some h

/-- Calls end in a link that is down and a port that cannot be closed. -/
def Escape (calls : List (PortCall × Answer)) (h : Halt) : Prop :=
  ∃ init c text,
    calls = init ++ [(c, .halts (.fault (.linkDown text))), (.disconnect, .halts h)]

theorem eq_halts_of_letdown?
    {c : PortCall}
    {a : Answer}
    {h : Halt}
    (hx : letdown? (c, a) = some h)
    (hh : h ≠ .fault .wrongType) :
    a = .halts h := by
  unfold letdown? at hx
  split at hx
  · rename_i heq
    cases heq
    cases hx
    rfl
  · cases hx
    exact absurd rfl hh
  · cases hx

/-- Calls that escape let down their caller twice. -/
theorem not_escape_of_single
    {init : List (PortCall × Answer)}
    {x : PortCall × Answer}
    (hinit : init.all succeeds = true) :
    ¬ ∃ h, Escape (init ++ [x]) h := by
  rintro ⟨h, first, c, text, heq⟩
  rw [List.append_cons first] at heq
  have hfirst := (List.append_inj' heq rfl).1
  rw [hfirst, List.all_append] at hinit
  cases c <;> simp [succeeds, letdown?] at hinit

/-- Calls that end in a successful one do not escape. -/
theorem not_escape_of_success
    {init : List (PortCall × Answer)}
    {c : PortCall}
    {a : Answer}
    (ha : a.failure? = none) :
    ¬ ∃ h, Escape (init ++ [(c, a)]) h := by
  rintro ⟨h, first, d, text, heq⟩
  rw [List.append_cons first] at heq
  have hlast := (List.append_inj' heq rfl).2
  cases hlast
  cases ha

theorem all_succeeds_eq_false
    {calls : List (PortCall × Answer)}
    {x : PortCall × Answer}
    {h : Halt}
    (hmem : x ∈ calls)
    (hx : letdown? x = some h) :
    calls.all succeeds = false := by
  rw [List.all_eq_false]
  refine ⟨x, hmem, ?_⟩
  simp [succeeds, hx]

theorem succeeds_of_failure?
    {c : PortCall}
    {a : Answer}
    (hc : ∀ n t, c ≠ .receive n t)
    (ha : a.failure? = none) :
    succeeds (c, a) = true := by
  cases a with
  | halts h =>
      cases ha
  | bytes bs =>
      cases c <;> rfl
  | nothing =>
      cases c with
      | receive n t =>
          exact absurd rfl (hc n t)
      | _ =>
          rfl

theorem bearOut_halts
    {α : Type}
    (c : PortCall)
    (h : Halt) :
    BearOut [(c, .halts h)] (.error h : Except Halt α) := by
  refine ⟨[], _, rfl, rfl, ?_⟩
  cases c <;> rfl

/-- Calls that succeed may stand before calls that bear out a result. -/
theorem bearOut_append
    {α : Type}
    {init calls : List (PortCall × Answer)}
    {result : Except Halt α}
    (hinit : init.all succeeds = true)
    (h : BearOut calls result) :
    BearOut (init ++ calls) result := by
  cases result with
  | ok a =>
      change List.all _ _ = true
      rw [List.all_append, hinit]
      exact h
  | error halt =>
      obtain ⟨first, x, rfl, hfirst, hx⟩ := h
      refine ⟨init ++ first, x, (List.append_assoc _ _ _).symm, ?_, hx⟩
      rw [List.all_append, hinit]
      exact hfirst

theorem bearOut_cons
    {α : Type}
    {x : PortCall × Answer}
    {calls : List (PortCall × Answer)}
    {result : Except Halt α}
    (hx : succeeds x = true)
    (h : BearOut calls result) :
    BearOut (x :: calls) result := by
  have hall : [x].all succeeds = true := by simp [hx]
  exact bearOut_append hall h

end Act

namespace Vantage

variable {σ τ : Type} {V : Vantage σ τ}

theorem Collection.bearOut
    {d e : Desk σ}
    {acts : List Act}
    {result : Except Halt (List UInt8)}
    (h : V.Collection d acts result e) :
    Act.BearOut (Act.calls acts) result := by
  cases h with
  | failed h ha =>
      exact Act.bearOut_halts _ h
  | blank ha =>
      exact ⟨[], _, rfl, rfl, rfl⟩
  | accepted x ha hx =>
      simp [Act.BearOut, Act.succeeds, Act.letdown?]
  | dropped x a ha hx hb hok =>
      have hdiscard : Act.succeeds (.discard, a) = true :=
        Act.succeeds_of_failure? (by simp) hok
      simp [Act.BearOut, Act.succeeds, Act.letdown?] at hdiscard ⊢
      exact hdiscard
  | stuck x h ha hx hb =>
      have hread : Act.succeeds (d.reading, .bytes x) = true := rfl
      simpa using Act.bearOut_cons hread (Act.bearOut_halts .discard h)

theorem Inquiry.bearOut
    {bytes : List UInt8}
    {d e : Desk σ}
    {acts : List Act}
    {result : Except Halt (List UInt8)}
    (h : V.Inquiry bytes d acts result e) :
    Act.BearOut (Act.calls acts) result := by
  cases h with
  | unsent h ha =>
      simpa using Act.bearOut_halts (.send bytes) h
  | sent a ha hok hread =>
      have hsent : Act.succeeds (.send bytes, a) = true :=
        Act.succeeds_of_failure? (by simp) hok
      simpa using Act.bearOut_cons hsent hread.bearOut

theorem Service.bearOut
    {d e : Desk σ}
    {request : Option Request}
    {acts : List Act}
    {result : Except Halt Unit}
    (h : V.Service d request acts result e) :
    Act.BearOut (Act.calls acts) result := by
  cases h with
  | failed h hrequest hask =>
      exact hask.bearOut
  | dropped hrequest hask =>
      exact hask.bearOut
  | answered x hrequest hx hask =>
      have hcalls : (Act.calls _).all Act.succeeds = true := hask.bearOut
      change List.all _ _ = true
      simpa using hcalls
  | resetUnsent bytes h hbytes ha =>
      simpa using Act.bearOut_halts (.send bytes) h
  | resetUnclosed bytes a h hbytes ha hok hb =>
      have hsent : Act.succeeds (.send bytes, a) = true :=
        Act.succeeds_of_failure? (by simp) hok
      simpa using Act.bearOut_cons hsent (Act.bearOut_halts .disconnect h)
  | resetRested bytes a b c e hbytes ha hok hb hokb he hc =>
      have hsent : Act.succeeds (.send bytes, a) = true :=
        Act.succeeds_of_failure? (by simp) hok
      have hclosed : Act.succeeds (.disconnect, b) = true :=
        Act.succeeds_of_failure? (by simp) hokb
      have hopened : Act.BearOut [(.connect, c)] c.completion := by
        cases c with
        | halts h =>
            exact Act.bearOut_halts .connect h
        | _ =>
            rfl
      simpa using Act.bearOut_cons hsent (Act.bearOut_cons hclosed hopened)

theorem Opened.bearOut
    {d e : Desk σ}
    {request : Option Request}
    {acts : List Act}
    {result : Except Halt Unit}
    (h : V.Opened d request acts result e) :
    Act.BearOut (Act.calls acts) result := by
  cases h with
  | ready hopen hserve =>
      exact hserve.bearOut
  | refused h hopen ha =>
      exact Act.bearOut_halts .connect h
  | opened a hopen ha hok hserve =>
      have hconnected : Act.succeeds (.connect, a) = true :=
        Act.succeeds_of_failure? (by simp) hok
      exact Act.bearOut_cons hconnected hserve.bearOut

theorem alarmResult_accounted
    {d e : Desk σ}
    {limit : Int}
    (hlimit : d.policy.retryLimit = .int limit)
    (hstanding : e.standing = d.standing) :
    alarmResult (e.accounted false) = .ok () := by
  have hpolicy : e.policy = d.policy := congrArg Standing.policy hstanding
  have hint : (e.accounted false).policy.retryLimit = .int limit := by
    change e.policy.retryLimit = _
    rw [hpolicy, hlimit]
  unfold alarmResult Desk.alarm
  rw [hint]
  rfl

theorem failures_accounted
    {d e : Desk σ}
    (hstanding : e.standing = d.standing) :
    (e.accounted false).record.failures = d.record.failures + 1 := by
  have hfailures : e.record.failures = d.record.failures := congrArg Standing.failures hstanding
  exact congrArg (· + 1) hfailures

/-- A tick is accounted for as its calls bear out, or it escapes and is not accounted for. -/
theorem Course.accounts
    {d e : Desk σ}
    {request : Option Request}
    {acts : List Act}
    {result : Except Halt Unit}
    {limit : Int}
    (hlimit : d.policy.retryLimit = .int limit)
    (hfaults : ∀ c h, (c, Answer.halts h) ∈ Act.calls acts → h.isFault = true)
    (hcourse : V.Course d request acts result e) :
    ((¬ ∃ h, Act.Escape (Act.calls acts) h)
        ∧ result = .ok ()
        ∧ e.record.healthy = (Act.calls acts).all Act.succeeds
        ∧ e.record.failures =
          if (Act.calls acts).all Act.succeeds then 0 else d.record.failures + 1)
      ∨ ∃ h, Act.Escape (Act.calls acts) h
        ∧ result = .error h
        ∧ e.record.healthy = d.record.healthy
        ∧ e.record.failures = d.record.failures := by
  cases hcourse with
  | completed hserve =>
      have hall : (Act.calls acts).all Act.succeeds = true := hserve.bearOut
      refine Or.inl ⟨?_, rfl, hall.symm, (if_pos hall).symm⟩
      rintro ⟨h, init, c, text, heq⟩
      rw [heq] at hall
      simp [Act.succeeds, Act.letdown?] at hall
  | @missed acts k f hup hserve =>
      have hstanding := hserve.standing_eq
      obtain ⟨init, x, hcalls, hinit, hx⟩ := hserve.bearOut
      have hacts : Act.calls (acts ++ V.alarmActs (k.accounted false)) = init ++ [x] := by
        rw [Act.calls_append, calls_alarmActs, List.append_nil, hcalls]
      have hall : (init ++ [x]).all Act.succeeds = false :=
        Act.all_succeeds_eq_false (by simp) hx
      rw [hacts, hall]
      exact Or.inl ⟨Act.not_escape_of_single hinit, alarmResult_accounted hlimit hstanding, rfl,
        failures_accounted hstanding⟩
  | @severed acts k text a hserve ha hok =>
      have hstanding : (k.after V.peer .disconnect).standing = d.standing := hserve.standing_eq
      obtain ⟨init, x, hcalls, hinit, hx⟩ := hserve.bearOut
      generalize k.after V.peer .disconnect = m at hstanding ⊢
      have hacts :
          Act.calls (acts ++ .called .disconnect a :: V.alarmActs (m.accounted false)) =
            (init ++ [x]) ++ [(.disconnect, a)] := by
        rw [Act.calls_append, Act.calls_called, calls_alarmActs, hcalls]
      have hall : ((init ++ [x]) ++ [(PortCall.disconnect, a)]).all Act.succeeds = false :=
        Act.all_succeeds_eq_false (by simp) hx
      rw [hacts, hall]
      exact Or.inl ⟨Act.not_escape_of_success hok, alarmResult_accounted hlimit hstanding, rfl,
        failures_accounted hstanding⟩
  | escaped text h hserve ha =>
      have hstanding := hserve.standing_eq
      obtain ⟨init, ⟨c, a⟩, hcalls, hinit, hx⟩ := hserve.bearOut
      have hhalts := Act.eq_halts_of_letdown? hx (by simp)
      subst hhalts
      refine Or.inr ⟨h, ⟨init, c, text, ?_⟩, rfl, ?_, ?_⟩
      · rw [Act.calls_append, hcalls, List.append_assoc]
        rfl
      · exact congrArg Standing.healthy hstanding
      · exact congrArg Standing.failures hstanding
  | exited status hserve =>
      obtain ⟨init, ⟨c, a⟩, hcalls, hinit, hx⟩ := hserve.bearOut
      have hhalts := Act.eq_halts_of_letdown? hx (by simp)
      subst hhalts
      have hfault := hfaults c (.exit status) (by rw [hcalls]; simp)
      cases hfault

end Vantage

namespace Act

theorem escape_unique
    {calls : List (PortCall × Answer)}
    {h k : Halt}
    (hh : Escape calls h)
    (hk : Escape calls k) :
    h = k := by
  obtain ⟨init, c, text, rfl⟩ := hh
  obtain ⟨first, d, words, heq⟩ := hk
  have hlast := (List.append_inj' heq rfl).2
  simp at hlast
  exact hlast.2

end Act

/-- A tick returns and is accounted for as its calls bear out, unless the link is down and
closing the port halts; then the tick halts with it, and nothing is accounted for. -/
theorem World.tick_accounts_iff
    {σ : Type}
    {peer : Peer σ}
    {direct : Bool}
    {limit : Int}
    {w : World (AnsweredLine σ) Audience}
    (name : Value)
    (depth : Nat)
    (hfaults : ∀ c s h, (peer c s).1 = .halts h → h.isFault = true)
    (hlimit : w.courier.policy.retryLimit = .int limit)
    (hthread : direct = true ∨ w.courier.control.thread = .running)
    (hplans : w.audience.Plans (Reaction.isCourteous direct none)) :
    let port := answeredPort name peer
    let r := tick port (hear (performNested port depth)) w
    let calls := r.trace.calls peer w.port.party
    ((r.result = .ok ()
          ∧ r.state.courier.record.healthy = calls.all Act.succeeds
          ∧ r.state.courier.record.failures =
            if calls.all Act.succeeds then 0 else w.courier.record.failures + 1)
        ↔ ¬ ∃ h, Act.Escape calls h)
      ∧ ∀ h, Act.Escape calls h →
        r.result = .error h
          ∧ r.state.courier.record.healthy = w.courier.record.healthy
          ∧ r.state.courier.record.failures = w.courier.record.failures := by
  intro port r calls
  have hnobody : ∀ l : Listener, none = some l → w.courier.listeners.Attends l := by
    intro l hl
    cases hl
  have hw : (Vantage.courteous peer none direct).Orderly w := ⟨⟨hnobody, hthread⟩, hplans⟩
  obtain ⟨acts, result, e, hcourse, hleaves⟩ :=
    Vantage.leaves_tick name (Vantage.discreet_hear port depth) w hw
  have hcalls : calls = Act.calls acts := congrArg Act.calls hleaves.acts_eq
  have hresult : r.result = result := hleaves.result_eq
  have hrecord : r.state.courier.record = e.record := congrArg Desk.record hleaves.desk_eq
  have hhalts : ∀ c h, (c, Answer.halts h) ∈ Act.calls acts → h.isFault = true := by
    intro c h hmem
    rw [← hcalls] at hmem
    obtain ⟨s, hs⟩ := Trace.exists_of_mem_calls_acts _ _ hmem
    exact hfaults c s h hs.symm
  rw [hcalls, hresult, hrecord]
  rcases hcourse.accounts hlimit hhalts with ⟨hstays, haccounts⟩ | ⟨h, hescapes, hlost⟩
  · exact ⟨⟨fun _ => hstays, fun _ => haccounts⟩, fun h hh => absurd ⟨h, hh⟩ hstays⟩
  · refine ⟨⟨?_, fun hstays => absurd ⟨h, hescapes⟩ hstays⟩, ?_⟩
    · rintro ⟨hok, -⟩
      rw [hlost.1] at hok
      cases hok
    · intro k hk
      rw [Act.escape_unique hk hescapes]
      exact hlost

/-- A tick whose reply is no frame is accounted for. -/
theorem World.tick_accounts_iff_unused :
    let port := answeredPort .null (.steady Responder.ofOutcomes)
    let w := unused [.ok [], .ok [], .ok [0x02]] [⟨⟨"rec", .null⟩, []⟩]
    let r := tick port (hear (performNested port 0)) w
    let calls := r.trace.calls Responder.ofOutcomes w.port.party
    (r.result = .ok ()
        ∧ r.state.courier.record.healthy = calls.all Act.succeeds
        ∧ r.state.courier.record.failures =
          if calls.all Act.succeeds then 0 else w.courier.record.failures + 1)
      ↔ ¬ ∃ h, Act.Escape calls h := by
  refine (@tick_accounts_iff _ _ true 5 _ .null 0
    Responder.ofOutcomes_faults rfl (Or.inl rfl) ?_).1
  intro m hm now hnow
  simp [unused] at hm
  subst hm
  cases hnow

/-- A link that is down and a port that cannot be closed end a tick without an account. -/
theorem World.tick_escapes_unused :
    let port := answeredPort .null (.steady Responder.ofOutcomes)
    let w := unused
      [.ok [], .error (.linkDown "lost"), .error (.device .runtime "stuck")]
      [⟨⟨"rec", .null⟩, []⟩]
    let r := tick port (hear (performNested port 0)) w
    r.result = .error (.fault (.device .runtime "stuck"))
      ∧ r.state.courier.record = w.courier.record := by
  exact ⟨rfl, rfl⟩

end AcceptorHost
