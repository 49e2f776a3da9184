import AcceptorHost.Link.SerialPort
import AcceptorHost.Proofs.Acts
import AcceptorHost.Proofs.Endings

/-!
# Calls on the serial library and their answers

A trace records the calls on the serial library but not how it deals with them.  The
library answers by its state alone, so `Trace.dealings` walks a trace with that state and
lists every call with its answer and whether it finds the cable pulled.  A run sails if it
returns whenever its dealings go well (`Run.Sails`); every operation of a serial port does.
-/

namespace AcceptorHost

/-- A reply of the size that is asked for. -/
def Answer.isReply : Answer → Bool
  | .bytes bs => bs.length == Frame.replySize
  | _ => false

/-- How the serial library deals with a call. -/
structure Dealing where
  call : SerialCall
  answer : Answer
  pulled : Bool

namespace Dealing

/-- A call succeeds, a read with a whole reply, and the held object stays open; an opening
finds no object held that could be open. -/
def goesWell (d : Dealing) : Bool :=
  match d.call with
  | .acquire _ _ _ => d.answer.failure?.isNone
  | .read _ => d.answer.isReply && !d.pulled
  | _ => d.answer.failure?.isNone && !d.pulled

variable {d : Dealing}

theorem exists_reply_of_goesWell
    {n : Int}
    (h : d.goesWell = true)
    (hc : d.call = .read n) :
    ∃ bs, d.answer = .bytes bs ∧ bs.length = Frame.replySize := by
  obtain ⟨c, a, pulled⟩ := d
  cases hc
  cases a with
  | bytes bs =>
      refine ⟨bs, rfl, ?_⟩
      simpa [goesWell, Answer.isReply] using (Bool.and_eq_true_iff.mp h).1
  | _ =>
      cases h

theorem failure?_of_goesWell
    (h : d.goesWell = true) :
    d.answer.failure? = none := by
  obtain ⟨c, a, pulled⟩ := d
  cases c with
  | read n =>
      obtain ⟨bs, ha, -⟩ := exists_reply_of_goesWell h rfl
      change a = .bytes bs at ha
      rw [ha]
      rfl
  | acquire url baud timeout =>
      exact Option.isNone_iff_eq_none.mp h
  | _ =>
      exact Option.isNone_iff_eq_none.mp (Bool.and_eq_true_iff.mp h).1

theorem pulled_of_goesWell
    (h : d.goesWell = true)
    (hc : ∀ url baud timeout, d.call ≠ .acquire url baud timeout) :
    d.pulled = false := by
  obtain ⟨c, a, pulled⟩ := d
  cases c with
  | acquire url baud timeout =>
      exact absurd rfl (hc url baud timeout)
  | _ =>
      simpa using (Bool.and_eq_true_iff.mp h).2

end Dealing

/-- A call that does not halt returns. -/
theorem Answer.exists_ending_of_success
    {a : Answer}
    (h : a.failure? = none) :
    ∃ got, a.ending = .ok got := by
  cases a with
  | halts k =>
      cases h
  | nothing =>
      exact ⟨none, rfl⟩
  | bytes bs =>
      exact ⟨some bs, rfl⟩

variable {σ : Type}

namespace Entry

/-- The serial library after an entry. -/
def library (lib : SerialLibrary σ) : Entry → σ → σ
  | .serial c, s => (lib.respond c s).2
  | _, s => s

/-- The dealings of an entry. -/
def dealings (lib : SerialLibrary σ) : Entry → σ → List Dealing
  | .serial c, s => [⟨c, (lib.respond c s).1, lib.unplugged c s⟩]
  | _, _ => []

theorem library_of_not_isCall
    (lib : SerialLibrary σ)
    {e : Entry}
    (he : e.isCall = false)
    (s : σ) :
    e.library lib s = s := by
  cases e with
  | serial c =>
      cases he
  | _ =>
      rfl

end Entry

namespace Trace

/-- The serial library after a trace. -/
def library (lib : SerialLibrary σ) : Trace → σ → σ
  | [], s => s
  | e :: rest, s => library lib rest (e.library lib s)

/-- The dealings of a trace, from the library's state at its start. -/
def dealings (lib : SerialLibrary σ) : Trace → σ → List Dealing
  | [], _ => []
  | e :: rest, s => e.dealings lib s ++ dealings lib rest (e.library lib s)

theorem library_append
    (lib : SerialLibrary σ)
    (t u : Trace)
    (s : σ) :
    (t ++ u).library lib s = u.library lib (t.library lib s) := by
  induction t generalizing s with
  | nil =>
      rfl
  | cons e rest ih =>
      exact ih (e.library lib s)

theorem dealings_append
    (lib : SerialLibrary σ)
    (t u : Trace)
    (s : σ) :
    (t ++ u).dealings lib s = t.dealings lib s ++ u.dealings lib (t.library lib s) := by
  induction t generalizing s with
  | nil =>
      rfl
  | cons e rest ih =>
      change e.dealings lib s ++ dealings lib (rest ++ u) (e.library lib s) = _
      rw [ih, ← List.append_assoc]
      rfl

/-- All dealings of a trace go well. -/
def goesWell (lib : SerialLibrary σ) (t : Trace) (s : σ) : Bool :=
  (t.dealings lib s).all Dealing.goesWell

/-- All dealings of a trace go well; if a caller may wait for the loop beside it, the loop
does not end in it. -/
def smooth (lib : SerialLibrary σ) (beside : Bool) (t : Trace) (s : σ) : Bool :=
  t.goesWell lib s && !(beside && t.endsLoop)

theorem smooth_append
    (lib : SerialLibrary σ)
    (beside : Bool)
    (t u : Trace)
    (s : σ) :
    (t ++ u).smooth lib beside s =
      (t.smooth lib beside s && u.smooth lib beside (t.library lib s)) := by
  unfold smooth goesWell
  rw [dealings_append, List.all_append, endsLoop_append]
  cases beside <;> cases t.endsLoop <;> simp [Bool.and_comm, Bool.and_left_comm]

end Trace

/-- Along a run the library answers the calls. -/
def Passage.answered
    {S : Type}
    (lib : SerialLibrary σ)
    (view : S → σ) :
    Passage S where
  holds s t r := t.library lib (view s) = view r
  stay _ := rfl
  onward := by
    intro s t r u q h k
    rw [Trace.library_append, h, k]

/-- If a run goes smoothly, it returns, the library has answered the calls and a condition
holds of what it returns and where it ends. -/
def Run.Sails
    {S α : Type}
    (lib : SerialLibrary σ)
    (beside : Bool)
    (view : S → σ)
    (x : Run S α)
    (s : S)
    (post : α → S → Prop) : Prop :=
  (x s).trace.smooth lib beside (view s) = true →
    ∃ a, (x s).result = .ok a
      ∧ (x s).trace.library lib (view s) = view (x s).state
      ∧ post a (x s).state

namespace Run

variable {S α β : Type} {lib : SerialLibrary σ} {beside : Bool} {view : S → σ} {s : S}

/-! ## Composition -/

theorem answered_emit
    {e : Entry}
    (he : e.isCall = false) :
    Follows (.answered lib view) (Run.emit e) := fun s =>
  Entry.library_of_not_isCall lib he (view s)

theorem answered_change
    {f : S → S}
    (hf : ∀ s, view (f s) = view s) :
    Follows (.answered lib view) (Run.change f) := fun s => (hf s).symm

namespace Sails

variable {x : Run S α} {post : α → S → Prop}

theorem give
    {a : α}
    (h : post a s) :
    Sails lib beside view (Run.give a) s post := fun _ => ⟨a, rfl, rfl, h⟩

theorem look
    {f : S → α} :
    Sails lib beside view (Run.look f) s fun a r => a = f s ∧ r = s := fun _ =>
  ⟨f s, rfl, rfl, rfl, rfl⟩

theorem change
    {f : S → S}
    {post : Unit → S → Prop}
    (hview : view (f s) = view s)
    (h : post () (f s)) :
    Sails lib beside view (Run.change f) s post := fun _ => ⟨(), rfl, hview.symm, h⟩

theorem emit
    {e : Entry}
    {post : Unit → S → Prop}
    (he : e.isCall = false)
    (h : post () s) :
    Sails lib beside view (Run.emit e) s post := fun _ =>
  ⟨(), rfl, Entry.library_of_not_isCall lib he (view s), h⟩

theorem mono
    {next : α → S → Prop}
    (hx : Sails lib beside view x s post)
    (h : ∀ a r, post a r → next a r) :
    Sails lib beside view x s next := by
  intro hsmooth
  obtain ⟨a, hr, hview, hpost⟩ := hx hsmooth
  exact ⟨a, hr, hview, h _ _ hpost⟩

theorem bind
    {f : α → Run S β}
    {next : β → S → Prop}
    (hx : Sails lib beside view x s post)
    (hf : ∀ a r, post a r → Sails lib beside view (f a) r next) :
    Sails lib beside view (x >>= f) s next := by
  intro hsmooth
  cases hr : (x s).result with
  | error h =>
      rw [bind_of_error hr] at hsmooth
      obtain ⟨a, ha, -⟩ := hx hsmooth
      rw [hr] at ha
      cases ha
  | ok a =>
      rw [bind_of_ok hr] at hsmooth ⊢
      rw [Trace.smooth_append, Bool.and_eq_true] at hsmooth
      obtain ⟨b, hb, hview, hpost⟩ := hx hsmooth.1
      obtain rfl : a = b := by
        rw [hr] at hb
        exact Except.ok.inj hb
      rw [hview] at hsmooth
      obtain ⟨c, hc, kview, kpost⟩ := hf a _ hpost hsmooth.2
      refine ⟨c, hc, ?_, kpost⟩
      rw [Trace.library_append, hview, kview]

theorem handle
    {f : Halt → Run S α}
    (hx : Sails lib beside view x s post) :
    Sails lib beside view (Run.handle x f) s post := by
  intro hsmooth
  cases hr : (x s).result with
  | ok a =>
      rw [handle_of_ok hr] at hsmooth ⊢
      obtain ⟨b, hb, hrest⟩ := hx hsmooth
      rw [hr] at hb
      exact ⟨b, hb, hrest⟩
  | error h =>
      rw [handle_of_error hr] at hsmooth
      rw [Trace.smooth_append, Bool.and_eq_true] at hsmooth
      obtain ⟨a, ha, -⟩ := hx hsmooth.1
      rw [hr] at ha
      cases ha

theorem ite
    {b : Prop}
    [Decidable b]
    {y : Run S α}
    (hx : b → Sails lib beside view x s post)
    (hy : ¬ b → Sails lib beside view y s post) :
    Sails lib beside view (if b then x else y) s post := by
  split
  · exact hx ‹b›
  · exact hy ‹¬ b›

end Sails

end Run

/-! ## The operations of a serial port -/

namespace SerialLine

variable {lib : SerialLibrary σ} {beside : Bool} {l : SerialLine σ}

theorem answered_ask
    (c : SerialCall) :
    Run.Follows (.answered lib library) (ask lib c) := by
  intro l
  change (lib.respond c l.library).2 = SerialLine.library (if _ then _ else _)
  split <;> rfl

/-- A smooth call has gone well. -/
theorem goesWell_of_smooth
    {c : SerialCall}
    (h : (ask lib c l).trace.smooth lib beside l.library = true) :
    Dealing.goesWell ⟨c, (lib.respond c l.library).1, lib.unplugged c l.library⟩ = true := by
  obtain ⟨hwell, -⟩ := Bool.and_eq_true_iff.mp h
  simpa [Trace.goesWell, Trace.dealings, Entry.dealings, ask] using hwell

/-- A smooth call returns, a read with a whole reply, and leaves the held object as it is
unless it is there to replace it. -/
theorem sails_ask
    (c : SerialCall) :
    Run.Sails lib beside library (ask lib c) l fun got r =>
      ((∀ url baud timeout, c ≠ .acquire url baud timeout) → r.held = l.held)
        ∧ ∀ n, c = .read n → ∃ bs, got = some bs ∧ bs.length = Frame.replySize := by
  intro hsmooth
  have hwell := goesWell_of_smooth hsmooth
  obtain ⟨got, hgot⟩ := Answer.exists_ending_of_success (Dealing.failure?_of_goesWell hwell)
  refine ⟨got, hgot, answered_ask c l, ?_, ?_⟩
  · intro hc
    have hpulled : lib.unplugged c l.library = false := Dealing.pulled_of_goesWell hwell hc
    simp [ask, hpulled]
  · intro n hn
    obtain ⟨bs, ha, hlength⟩ := Dealing.exists_reply_of_goesWell hwell hn
    refine ⟨bs, ?_, hlength⟩
    change (lib.respond c l.library).1 = .bytes bs at ha
    rw [ha] at hgot
    exact (Except.ok.inj hgot).symm

theorem sails_hold
    (object : Option Bool) :
    Run.Sails lib beside library (Run.change (hold object)) l fun _ r => r.held = object :=
  .change rfl rfl

end SerialLine

namespace SerialPort

variable {lib : SerialLibrary σ} {beside : Bool} {l : SerialLine σ} (p : SerialPort)

/-- A smooth opening leaves the port open, whatever object was held before. -/
theorem sails_connect :
    Run.Sails lib beside SerialLine.library (p.connect lib) l fun _ r => r.isOpen = true := by
  refine (Run.Sails.handle ?_).bind fun _ r (hopen : r.isOpen = true) =>
    (Run.Sails.emit rfl hopen).bind fun _ _ kopen => .emit rfl kopen
  refine (SerialLine.sails_ask _).bind fun _ _ _ => ?_
  refine (SerialLine.sails_hold (some true)).bind fun _ r hheld => ?_
  refine (SerialLine.sails_ask .resetInput).bind fun _ s hs => ?_
  refine (SerialLine.sails_ask .resetOutput).bind fun _ t ht => .give ?_
  have hobject : t.held = some true :=
    (ht.1 (by simp)).trans ((hs.1 (by simp)).trans hheld)
  rw [SerialLine.isOpen, hobject]
  rfl

/-- A smooth closing leaves no object held. -/
theorem sails_disconnect :
    Run.Sails lib beside SerialLine.library (p.disconnect lib) l fun _ r => r.held = none := by
  refine Run.Sails.look.bind ?_
  rintro held r ⟨rfl, rfl⟩
  refine .ite (fun _ => ?_) fun hnone => .give (by simpa using hnone)
  refine (Run.Sails.handle ?_).bind fun _ _ (_ : True) => SerialLine.sails_hold none
  exact (SerialLine.sails_ask .release).bind fun _ _ _ => .change rfl trivial

/-- Dropping what waits leaves the held object as it is. -/
theorem sails_discard :
    Run.Sails lib beside SerialLine.library (p.discard lib) l fun _ r => r.held = l.held := by
  refine Run.Sails.look.bind ?_
  rintro isOpen r ⟨rfl, rfl⟩
  refine .ite (fun _ => .handle ?_) fun _ => .give rfl
  exact (SerialLine.sails_ask .resetInput).bind fun _ _ hs => .give (hs.1 (by simp))

theorem sails_requireOpen
    (hopen : l.isOpen = true) :
    Run.Sails lib beside SerialLine.library p.requireOpen l fun _ r => r = l := by
  refine Run.Sails.look.bind ?_
  rintro isOpen r ⟨rfl, rfl⟩
  rw [hopen]
  exact .give rfl

/-- What is sent over an open port smoothly leaves it open. -/
theorem sails_send
    (bs : List UInt8)
    (hopen : l.isOpen = true) :
    Run.Sails lib beside SerialLine.library (p.send lib bs) l fun _ r => r.isOpen = true := by
  refine (p.sails_requireOpen hopen).bind fun _ r hr => .handle ?_
  subst hr
  refine (SerialLine.sails_ask (.write bs)).bind fun _ s hs => ?_
  refine (SerialLine.sails_ask .drain).bind fun _ t ht => .give ?_
  have hheld : t.held = r.held := (ht.1 (by simp)).trans (hs.1 (by simp))
  rw [SerialLine.isOpen, hheld]
  exact hopen

/-- A smooth reading over an open port gives a whole reply and leaves the port open. -/
theorem sails_receive
    (timeout : Value)
    (hopen : l.isOpen = true) :
    Run.Sails lib beside SerialLine.library (p.receive lib Frame.replySize timeout) l
      fun got r => (∃ bs, got = some bs ∧ bs.length = Frame.replySize) ∧ r.isOpen = true := by
  refine (p.sails_requireOpen hopen).bind fun _ r hr => ?_
  subst hr
  have hread (within : Value) :
      Run.Sails lib beside SerialLine.library
        (do
          let _ ← SerialLine.ask lib (.setTimeout within)
          let r ← SerialLine.ask lib (.read Frame.replySize)
          Run.give (r.getD []))
        r fun bs t => bs.length = Frame.replySize ∧ t.isOpen = true := by
    refine (SerialLine.sails_ask (.setTimeout within)).bind fun _ s hs => ?_
    refine (SerialLine.sails_ask (.read Frame.replySize)).bind fun got t ht => .give ?_
    obtain ⟨bs, rfl, hlength⟩ := ht.2 _ rfl
    have hheld : t.held = r.held := (ht.1 (by simp)).trans (hs.1 (by simp))
    refine ⟨hlength, ?_⟩
    rw [SerialLine.isOpen, hheld]
    exact hopen
  refine (Run.Sails.handle (hread _)).bind ?_
  rintro bs t ⟨hlength, hstill⟩
  refine .ite (fun _ => .give ⟨⟨bs, rfl, hlength⟩, hstill⟩) fun hshort => ?_
  exact absurd (congrArg Nat.cast hlength) hshort

/-! ## What the operations are made of -/

section Laws

variable {q : Passage (SerialLine σ)}

/-- An opening follows a passage along which its calls may be made, its object be held or given
up, and its success be logged. -/
theorem follows_connect
    (hask : ∀ c ∈ [.acquire p.name p.baud p.timeout, .resetInput, .resetOutput],
      Run.Follows q (SerialLine.ask lib c))
    (hhold : ∀ object, Run.Follows q (Run.change (SerialLine.hold object)))
    (hemit : ∀ e : Entry, e.isInert = true → e.line? = none → Run.Follows q (Run.emit e)) :
    Run.Follows q (p.connect lib) := by
  refine (Run.Follows.handle ?_ fun h => ?_).bind fun _ =>
    (hemit _ rfl rfl).bind fun _ => hemit _ rfl rfl
  · exact (hask _ (by simp)).bind fun _ => (hhold _).bind fun _ =>
      (hask _ (by simp)).bind fun _ => (hask _ (by simp)).bind fun _ => .give ()
  · cases h with
    | fault f =>
        exact ((hhold _).bind fun _ => .halt _).ite (.halt _)
    | exit status =>
        exact .halt _

/-- A closing follows a passage along which the held object may be closed, lose its open flag
and be given up, and a failure of that be logged. -/
theorem follows_disconnect
    (hask : Run.Follows q (SerialLine.ask lib .release))
    (hunplug : Run.Follows q (Run.change SerialLine.unplug))
    (hhold : Run.Follows q (Run.change (SerialLine.hold none)))
    (hemit : ∀ e : Entry, e.isInert = true → e.line? = none → Run.Follows q (Run.emit e)) :
    Run.Follows q (p.disconnect lib) := by
  refine (Run.Follows.look _).bind fun _ => .ite ?_ (.give ())
  refine (Run.Follows.handle ?_ fun h => ?_).bind fun _ => hhold
  · exact hask.bind fun _ => hunplug
  · cases h with
    | fault f =>
        have hclosing : (Entry.log Level.warning
            ("Error closing " ++ p.name.display ++ ": " ++ f.message)).isInert = true := by
          refine Entry.isInert_of_head (c := 'E') ?_ (by decide)
          simp only [String.toList_append]
          rfl
        exact (hemit _ hclosing rfl).ite (.halt _)
    | exit status =>
        exact .halt _

theorem follows_discard
    (hask : Run.Follows q (SerialLine.ask lib .resetInput)) :
    Run.Follows q (p.discard lib) := by
  refine (Run.Follows.look _).bind fun _ => .ite (.handle ?_ fun h => ?_) (.give ())
  · exact hask.bind fun _ => .give ()
  · cases h <;> exact .halt _

theorem follows_requireOpen :
    Run.Follows q (p.requireOpen : Run (SerialLine σ) Unit) :=
  (Run.Follows.look _).bind fun _ => (Run.Follows.give ()).ite (.halt _)

theorem follows_send
    {bs : List UInt8}
    (hask : ∀ c ∈ [.write bs, .drain], Run.Follows q (SerialLine.ask lib c)) :
    Run.Follows q (p.send lib bs) := by
  refine p.follows_requireOpen.bind fun _ => .handle ?_ fun h => ?_
  · exact (hask _ (by simp)).bind fun _ => (hask _ (by simp)).bind fun _ => .give ()
  · cases h with
    | fault f =>
        exact (Run.Follows.halt _).ite (.halt _)
    | exit status =>
        exact .halt _

theorem follows_receive
    {n : Int}
    {timeout : Value}
    (hset : ∀ within, Run.Follows q (SerialLine.ask lib (.setTimeout within)))
    (hread : Run.Follows q (SerialLine.ask lib (.read n))) :
    Run.Follows q (p.receive lib n timeout) := by
  refine p.follows_requireOpen.bind fun _ =>
    (Run.Follows.handle ?_ fun h => ?_).bind fun got => ?_
  · exact (hset _).bind fun _ => hread.bind fun _ => .give _
  · cases h <;> exact .halt _
  · exact (Run.Follows.give _).ite ((Run.Follows.ofExcept _).bind fun _ => .halt _)

end Laws

/-! ## What the library has answered -/

theorem answered_connect :
    Run.Follows (.answered lib SerialLine.library) (p.connect lib) :=
  p.follows_connect (fun c _ => SerialLine.answered_ask c)
    (fun _ => Run.answered_change fun _ => rfl)
    fun _ he _ => Run.answered_emit (Entry.isCall_of_isInert he)

theorem answered_disconnect :
    Run.Follows (.answered lib SerialLine.library) (p.disconnect lib) :=
  p.follows_disconnect (SerialLine.answered_ask _) (Run.answered_change fun _ => rfl)
    (Run.answered_change fun _ => rfl)
    fun _ he _ => Run.answered_emit (Entry.isCall_of_isInert he)

theorem answered_discard :
    Run.Follows (.answered lib SerialLine.library) (p.discard lib) :=
  p.follows_discard (SerialLine.answered_ask _)

theorem answered_send
    (bs : List UInt8) :
    Run.Follows (.answered lib SerialLine.library) (p.send lib bs) :=
  p.follows_send fun c _ => SerialLine.answered_ask c

theorem answered_receive
    (n : Int)
    (timeout : Value) :
    Run.Follows (.answered lib SerialLine.library) (p.receive lib n timeout) :=
  p.follows_receive (fun _ => SerialLine.answered_ask _) (SerialLine.answered_ask _)

end SerialPort

/-! ## On the port of a courier -/

namespace World

variable {τ α : Type} {lib : SerialLibrary σ} {beside : Bool} {x : Run (SerialLine σ) α}

/-- The serial library behind the port of a courier. -/
def library (w : World (SerialLine σ) τ) : σ := w.port.library

/-- What sails on the port sails in the world, and touches nothing but the port. -/
theorem sails_onPort
    {post : α → SerialLine σ → Prop}
    {w : World (SerialLine σ) τ}
    (h : Run.Sails lib beside SerialLine.library x w.port post) :
    Run.Sails lib beside library (onPort x) w fun a r =>
      post a r.port ∧ r.courier = w.courier ∧ r.audience = w.audience := by
  intro hsmooth
  obtain ⟨a, ha, hlibrary, hpost⟩ := h hsmooth
  exact ⟨a, ha, hlibrary, hpost, rfl, rfl⟩

end World

end AcceptorHost
