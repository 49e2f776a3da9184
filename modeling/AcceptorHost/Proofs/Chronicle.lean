import AcceptorHost.Courier.Audience
import AcceptorHost.Proofs.Acts
import AcceptorHost.Proofs.RunLaws

/-!
# Operations one after another

What a row of operations leaves behind and where it leads.  A passage that every
operation of a row follows holds along the whole row.  At the end stand a party that
answers by a list of outcomes and a courier that nobody has used yet, for looking at
single rows.
-/

namespace AcceptorHost

/-- The calls on the port in a trace, each with its answer. -/
def Trace.calls {σ : Type} (respond : Responder PortCall σ) (t : Trace) (s : σ) :
    List (PortCall × Answer) :=
  Act.calls (t.acts respond none s)

theorem Trace.calls_append
    {σ : Type}
    (respond : Responder PortCall σ)
    (t u : Trace)
    (s : σ) :
    (t ++ u).calls respond s = t.calls respond s ++ u.calls respond (t.party respond s) := by
  unfold calls
  rw [acts_append, Act.calls_append]

/-- The replies that are read in a trace. -/
def Trace.replies {σ : Type} (respond : Responder PortCall σ) (t : Trace) (s : σ) :
    List (List UInt8) :=
  Act.replies (t.acts respond none s)

namespace World

variable {σ : Type}

/-- The trace of operations one after another. -/
def chronicle (port : Port σ) (ops : List Operation) (w : World σ Audience) : Trace :=
  (steps port ops w).flatMap Report.trace

/-- The world that operations one after another lead to. -/
def reached (port : Port σ) : List Operation → World σ Audience → World σ Audience
  | [], w => w
  | op :: rest, w => reached port rest (step port op w).state

theorem chronicle_cons
    (port : Port σ)
    (op : Operation)
    (rest : List Operation)
    (w : World σ Audience) :
    chronicle port (op :: rest) w =
      (step port op w).trace ++ chronicle port rest (step port op w).state := rfl

theorem reached_append
    (port : Port σ)
    (first rest : List Operation)
    (w : World σ Audience) :
    reached port (first ++ rest) w = reached port rest (reached port first w) := by
  induction first generalizing w with
  | nil =>
      rfl
  | cons op more ih =>
      exact ih (step port op w).state

theorem chronicle_append
    (port : Port σ)
    (first rest : List Operation)
    (w : World σ Audience) :
    chronicle port (first ++ rest) w =
      chronicle port first w ++ chronicle port rest (reached port first w) := by
  induction first generalizing w with
  | nil =>
      rfl
  | cons op more ih =>
      rw [List.cons_append, chronicle_cons, chronicle_cons, ih, List.append_assoc]
      rfl

/-- A passage that every operation follows holds along a row of operations. -/
theorem holds_chronicle
    {port : Port σ}
    {p : Passage (World σ Audience)} :
    ∀ {ops : List Operation},
      (∀ op ∈ ops, Run.Follows p (step port op)) →
      ∀ w, p.holds w (chronicle port ops w) (reached port ops w)
  | [], _, w => p.stay w
  | op :: rest, hops, w => by
      have hfirst := hops op List.mem_cons_self w
      have hrest := holds_chronicle (fun o ho => hops o (List.mem_cons_of_mem op ho))
        (step port op w).state
      exact p.onward hfirst hrest

end World

/-! ## Single rows -/

/-- A party that answers by a list of outcomes, and with nothing after its end. -/
def Responder.ofOutcomes : Responder PortCall (List (Except Fault (List UInt8)))
  | _, [] => (.nothing, [])
  | _, .ok bs :: rest => (.bytes bs, rest)
  | _, .error f :: rest => (.halts (.fault f), rest)

theorem Responder.ofOutcomes_faults
    (c : PortCall)
    (s : List (Except Fault (List UInt8)))
    (h : Halt)
    (ha : (Responder.ofOutcomes c s).1 = .halts h) :
    h.isFault = true := by
  match s with
  | [] =>
      cases ha
  | .ok bs :: rest =>
      cases ha
  | .error f :: rest =>
      cases ha
      rfl

/-- A courier that nobody has used yet, over a party, with every member registered. -/
def World.unused {σ : Type} (party : σ) (audience : Audience) :
    World (AnsweredLine σ) Audience where
  courier :=
    { policy := ⟨Policy.leastInterval, .int 5, .null, false, some Policy.usualLongestWait⟩
      codec := Codec.usual
      control := Control.fresh
      listeners := ⟨audience.map Member.listener⟩
      record := Record.fresh }
  port := ⟨false, party⟩
  audience := audience

end AcceptorHost
