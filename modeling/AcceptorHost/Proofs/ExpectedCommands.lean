import AcceptorHost.Proofs.NestedOperations
import AcceptorHost.Proofs.Replies

/-!
# What the next command is to tell

A verdict is what the calls on a port have shown so far: whether the last command was
a normal one, and what the next normal command is to tell the acceptor.  `Binds` says
that along a row of calls every normal command tells what the verdict before it says.
What does not tick neither sends nor receives, so it leaves the verdict alone.
-/

namespace AcceptorHost

/-- A call sends or receives. -/
def PortCall.isTraffic : PortCall → Bool
  | .send _ | .receive _ _ => true
  | _ => false

/-- A command is a normal one, by its type byte. -/
def Frame.isNormal (bs : List UInt8) : Bool := bs.getD 2 0 &&& 0xF0 == hostType

/-- What calls on the port have shown: the last command was a normal one, and what the
next normal one is to tell. -/
structure Verdict where
  normal : Bool
  action : CreditAction

namespace Verdict

/-- The verdict after a reply is read. -/
def heed (v : Verdict) (x : List UInt8) : Verdict :=
  if v.normal && Frame.accepts x then { v with action := Reply.decision x } else v

/-- The verdict after a call. -/
def next (v : Verdict) : PortCall × Answer → Verdict
  | (.send bs, _) => { v with normal := Frame.isNormal bs }
  | (.receive _ _, .bytes x) => v.heed x
  | _ => v

/-- A call that sends a normal command tells what the verdict says. -/
def Suits (v : Verdict) : PortCall × Answer → Prop
  | (.send bs, _) =>
      Frame.isNormal bs = true → bs[4]? = some (Codec.escrowMode ||| v.action.bits)
  | _ => True

/-- Calls along which every normal command tells what the verdict before it says. -/
inductive Binds : Verdict → List (PortCall × Answer) → Verdict → Prop
  | done
      (v : Verdict) :
      Binds v [] v
  | call
      {v u : Verdict}
      {x : PortCall × Answer}
      {rest : List (PortCall × Answer)}
      (hsuits : v.Suits x)
      (hrest : Binds (v.next x) rest u) :
      Binds v (x :: rest) u

theorem Binds.append
    {v u t : Verdict}
    {a b : List (PortCall × Answer)}
    (ha : Binds v a u)
    (hb : Binds u b t) :
    Binds v (a ++ b) t := by
  induction ha with
  | done v =>
      exact hb
  | call hsuits hrest ih =>
      exact .call hsuits (ih hb)

theorem binds_of_silent
    (v : Verdict)
    {x : PortCall × Answer}
    (hx : x.1.isTraffic = false) :
    v.Suits x ∧ v.next x = v := by
  obtain ⟨c, a⟩ := x
  cases c with
  | send bs =>
      cases hx
  | receive n t =>
      cases hx
  | _ =>
      exact ⟨trivial, rfl⟩

/-- Calls that neither send nor receive leave the verdict alone. -/
theorem binds_silent
    (v : Verdict)
    {calls : List (PortCall × Answer)}
    (h : ∀ x ∈ calls, x.1.isTraffic = false) :
    Binds v calls v := by
  induction calls with
  | nil =>
      exact .done v
  | cons x rest ih =>
      obtain ⟨hsuits, hnext⟩ := binds_of_silent v (h x List.mem_cons_self)
      refine .call hsuits ?_
      rw [hnext]
      exact ih fun y hy => h y (List.mem_cons_of_mem x hy)

theorem heed_of_rejected
    (v : Verdict)
    {x : List UInt8}
    (hx : Frame.accepts x = false) :
    v.heed x = v := by
  simp [heed, hx]

end Verdict

/-- A reaction halts in a fault or asks for an operation that does not tick. -/
def Reaction.isTame : Reaction → Bool
  | .halts h => h.isFault
  | .performs .poll | .performs .pass => false
  | .performs _ => true

namespace Verdict

/-! ## Passages -/

variable {σ : Type} (peer : Peer σ)

/-- The calls in a trace neither send nor receive, and the decision stays as it is. -/
def silent : Passage (World (AnsweredLine σ) Audience) where
  holds w t v :=
    t.party peer w.port.party = v.port.party
      ∧ (∀ x ∈ t.calls peer w.port.party, x.1.isTraffic = false)
      ∧ v.courier.record.creditAction = w.courier.record.creditAction
  stay w := by
    refine ⟨rfl, ?_, rfl⟩
    intro x hx
    cases hx
  onward := by
    intro w t v u x h k
    obtain ⟨hparty, hcalls, haction⟩ := h
    obtain ⟨kparty, kcalls, kaction⟩ := k
    refine ⟨?_, ?_, kaction.trans haction⟩
    · rw [Trace.party_append, hparty, kparty]
    · intro y hy
      rw [Trace.calls_append, hparty] at hy
      rcases List.mem_append.mp hy with hfirst | hsecond
      · exact hcalls y hfirst
      · exact kcalls y hsecond

/-- The calls in a trace are bound by the decision before it, and leave the one after it. -/
def bound : Passage (World (AnsweredLine σ) Audience) where
  holds w t v :=
    t.party peer w.port.party = v.port.party
      ∧ ∀ n, ∃ m, Binds ⟨n, w.courier.record.creditAction⟩
        (t.calls peer w.port.party) ⟨m, v.courier.record.creditAction⟩
  stay w := ⟨rfl, fun n => ⟨n, .done _⟩⟩
  onward := by
    intro w t v u x h k
    obtain ⟨hparty, hbinds⟩ := h
    obtain ⟨kparty, kbinds⟩ := k
    refine ⟨?_, ?_⟩
    · rw [Trace.party_append, hparty, kparty]
    · intro n
      obtain ⟨m, hm⟩ := hbinds n
      obtain ⟨l, hl⟩ := kbinds m
      refine ⟨l, ?_⟩
      rw [Trace.calls_append, hparty]
      exact hm.append hl

/-- Nothing more than silence, while listeners do not tick. -/
abbrev muted : Passage (World (AnsweredLine σ) Audience) :=
  (silent peer).amid (fun _ => True) Reaction.isTame

/-- The decision binds, while listeners do not tick. -/
abbrev decided : Passage (World (AnsweredLine σ) Audience) :=
  (bound peer).amid (fun _ => True) Reaction.isTame

variable {peer}

theorem silent_unaudited :
    (silent peer).Unaudited := by
  intro w a
  refine ⟨rfl, ?_, rfl⟩
  intro x hx
  cases hx

theorem bound_of_silent
    {w v : World (AnsweredLine σ) Audience}
    {t : Trace}
    (h : (silent peer).holds w t v) :
    (bound peer).holds w t v := by
  obtain ⟨hparty, hcalls, haction⟩ := h
  refine ⟨hparty, fun n => ⟨n, ?_⟩⟩
  rw [haction]
  exact binds_silent _ hcalls

theorem decided_of_muted
    {α : Type}
    {x : Run (World (AnsweredLine σ) Audience) α}
    (h : Run.Follows (muted peer) x) :
    Run.Follows (decided peer) x := by
  intro w hw
  obtain ⟨hsilent, hv⟩ := h w hw
  exact ⟨bound_of_silent hsilent, hv⟩

theorem muted_emit
    {e : Entry}
    (he : e.isCall = false) :
    Run.Follows (muted peer) (Run.emit e) := by
  intro w hw
  cases e with
  | port c =>
      cases he
  | _ =>
      refine ⟨⟨rfl, ?_, rfl⟩, hw⟩
      intro x hx
      cases hx

theorem muted_log
    (level : Int)
    (text : String) :
    Run.Follows (muted peer) (Run.log level text) :=
  muted_emit rfl

theorem muted_change
    {f : Courier → Courier}
    (hf : ∀ c, (f c).record.creditAction = c.record.creditAction) :
    Run.Follows (muted peer) (World.change f) := by
  intro w hw
  refine ⟨⟨rfl, ?_, hf _⟩, trivial, hw.2⟩
  intro x hx
  cases hx

theorem muted_control
    (f : Control → Control) :
    Run.Follows (muted peer) (World.control f) :=
  muted_change fun _ => rfl

theorem muted_asks
    {α : Type}
    {c : PortCall}
    {x : Run (World (AnsweredLine σ) Audience) α}
    (hc : c.isTraffic = false)
    (hx : World.Asks peer c x) :
    Run.Follows (muted peer) x := by
  intro w hw
  refine ⟨⟨?_, ?_, ?_⟩, hw.of_eq (hx.courier_eq w) (hx.audience_eq w)⟩
  · rw [hx.trace_eq, hx.party_eq]
    rfl
  · intro y hy
    rw [hx.trace_eq] at hy
    have hcall : y = (c, (peer c w.port.party).1) := List.mem_singleton.mp hy
    rw [hcall]
    exact hc
  · rw [hx.courier_eq]

/-! ## Operations without a tick -/

section Operations

variable (name : Value)

theorem muted_disconnect :
    Run.Follows (muted peer) (World.onPort (answeredPort name peer).disconnect) :=
  muted_asks rfl (World.asks_disconnect name peer)

theorem muted_concludes :
    (muted peer).Concludes (answeredPort name peer) :=
  Passage.concludes_of_emit (fun _ he => muted_emit (Entry.isCall_of_isInert he)) muted_control
    (muted_disconnect name)

theorem decided_concludes :
    (decided peer).Concludes (answeredPort name peer) :=
  Passage.concludes_of_emit
    (fun _ he => decided_of_muted (muted_emit (Entry.isCall_of_isInert he)))
    (fun f => decided_of_muted (muted_control f)) (decided_of_muted (muted_disconnect name))

theorem muted_fire
    {deliver : Deliver (AnsweredLine σ) Audience}
    (hdeliver : ∀ l e, Run.Follows (muted peer) (deliver l e))
    (e : Event) :
    Run.Follows (muted peer) (World.fire deliver e) :=
  Run.Follows.fire hdeliver (fun _ _ => muted_emit rfl) e

/-- Whatever tame listeners bring about, it neither sends nor receives. -/
theorem silent_bears :
    (silent peer).Bears (fun _ => True) Reaction.isTame (answeredPort name peer) := by
  refine (muted_concludes name).bears (fun _ he => muted_emit he) silent_unaudited
    (fun _ => muted_change fun _ => rfl) ?_
  rintro (hpoll | hpass)
  · cases hpoll
  · cases hpass

end Operations

end Verdict

end AcceptorHost
