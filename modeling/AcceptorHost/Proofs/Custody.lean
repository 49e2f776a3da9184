import AcceptorHost.Proofs.Chronicle
import AcceptorHost.Proofs.Openings
import AcceptorHost.Proofs.Plans
import AcceptorHost.Proofs.Recovery

/-!
# Custody of serial objects

A port that lets go of a serial object should have asked for its closing before.  Whether it
has shows in its dealings with the library: `Dealing.entrust?` follows them with a flag for an
object that was handed out and not closed, and stops where a second one is handed out.  The
port is careless in three places, all of them openings: it replaces an object that is still
held, gives one up when the next is refused, and gives a new one up that cannot be emptied.
`Dealing.spares?` stops at these and nowhere else, and objects are lost exactly where it stops.
-/

namespace AcceptorHost

/-- What a port has in hand: nothing, an object that was just handed out, or one that it holds. -/
inductive Grip where
  | nothing
  | fresh
  | held
  deriving DecidableEq, Repr

/-- The grip of a port between its operations. -/
def Grip.of : Option Bool → Grip
  | none => .nothing
  | some _ => .held

namespace Dealing

/-- A call succeeds. -/
def succeeds (d : Dealing) : Bool := d.answer.failure?.isNone

/-- A call fails as the port understands it of an opening. -/
def refuses (d : Dealing) : Bool :=
  match d.answer with
  | .halts (.fault f) => f.refusesOpening
  | _ => false

/-- Whether an object is unclosed after a dealing, if none is replaced that was. -/
def entrust? (unclosed : Bool) (d : Dealing) : Option Bool :=
  match d.call with
  | .acquire _ _ _ => if d.succeeds then if unclosed then none else some true else some unclosed
  | .release => some false
  | _ => some unclosed

/-- The grip after a dealing, if it does not make the port careless: the port replaces or gives
up what it holds when it asks for another object, unless the failure is beyond it, and gives up
a new object that cannot be emptied. -/
def spares? (g : Grip) (d : Dealing) : Option Grip :=
  match d.call with
  | .acquire _ _ _ =>
      if g = .nothing then some (if d.succeeds then .fresh else .nothing)
      else if d.succeeds || d.refuses then none
      -- What the port does not understand goes past the clause that gives the object up.
      else some g
  | .resetInput => if g = .fresh then if d.refuses then none else some .held else some g
  | .resetOutput => if d.refuses then none else some g
  | .release => some .nothing
  | _ => some g

variable {d : Dealing}

theorem succeeds_of_success
    (h : d.answer.failure? = none) :
    d.succeeds = true ∧ d.refuses = false := by
  obtain ⟨c, a, pulled⟩ := d
  cases a with
  | halts k =>
      cases h
  | _ =>
      exact ⟨rfl, rfl⟩

theorem refuses_of_failure
    {f : Fault}
    (h : d.answer = .halts (.fault f)) :
    d.succeeds = false ∧ d.refuses = f.refusesOpening := by
  obtain ⟨c, a, pulled⟩ := d
  cases h
  exact ⟨rfl, rfl⟩

/-- A call that uses the held object leaves it as unclosed as it was. -/
theorem entrust?_of_isUse
    (h : d.call.isUse = true)
    (unclosed : Bool) :
    entrust? unclosed d = some unclosed := by
  obtain ⟨c, a, pulled⟩ := d
  cases c with
  | acquire url baud timeout =>
      cases h
  | release =>
      cases h
  | _ =>
      rfl

/-- Between operations a call that uses the held object leaves it in hand. -/
theorem spares?_of_isUse
    (h : d.call.isUse = true)
    (held : Option Bool) :
    spares? (.of held) d = some (.of held) := by
  obtain ⟨c, a, pulled⟩ := d
  cases c with
  | acquire url baud timeout =>
      cases h
  | release =>
      cases h
  | resetOutput =>
      cases h
  | resetInput =>
      cases held <;> rfl
  | _ =>
      rfl

end Dealing

/-- An object is lost: one was replaced unclosed, or one is unclosed and not held. -/
def Lost (unclosed : Option Bool) (held : Option Bool) : Prop :=
  unclosed = none ∨ unclosed = some true ∧ held = none

/-- Dealings from one held object to another are told apart by where they are careless: either
they are not, and just what is held is unclosed, or they are and an object is lost.  An
object that is lost before them stays lost. -/
structure Accounted (held : Option Bool) (ds : List Dealing) (held' : Option Bool) : Prop where
  told :
    ds.foldlM Dealing.spares? (.of held) = some (.of held')
        ∧ ds.foldlM Dealing.entrust? held.isSome = some held'.isSome
      ∨ ds.foldlM Dealing.spares? (.of held) = none
        ∧ Lost (ds.foldlM Dealing.entrust? held.isSome) held'
  stays : held = none → Lost (ds.foldlM Dealing.entrust? true) held'

namespace Accounted

variable {held held' held'' : Option Bool} {ds es : List Dealing}

/-- What is lost stays lost along further dealings. -/
theorem lost_append
    {unclosed : Bool}
    (h : Lost (ds.foldlM Dealing.entrust? unclosed) held')
    (hstays : held' = none → Lost (es.foldlM Dealing.entrust? true) held'') :
    Lost ((ds ++ es).foldlM Dealing.entrust? unclosed) held'' := by
  rw [List.foldlM_append]
  rcases h with hnone | ⟨htrue, hheld⟩
  · rw [hnone]
    exact Or.inl rfl
  · rw [htrue]
    exact hstays hheld

theorem append
    (h : Accounted held ds held')
    (k : Accounted held' es held'') :
    Accounted held (ds ++ es) held'' where
  told := by
    rcases h.told with ⟨hspared, hunclosed⟩ | ⟨hcareless, hlost⟩
    · rw [List.foldlM_append, List.foldlM_append, hspared, hunclosed]
      exact k.told
    · -- The first careless place decides, whatever the later dealings are.
      refine Or.inr ⟨?_, lost_append hlost k.stays⟩
      rw [List.foldlM_append, hcareless]
      rfl
  stays hnone := lost_append (h.stays hnone) k.stays

theorem nil
    (h : held'.isSome = held.isSome) :
    Accounted held [] held' where
  told := Or.inl ⟨by cases held <;> cases held' <;> simp_all [Grip.of], by rw [h]; rfl⟩
  stays hnone := by
    subst hnone
    cases held' with
    | none =>
        exact Or.inr ⟨rfl, rfl⟩
    | some object =>
        cases h

/-- Dealings that use the held object keep it in hand. -/
theorem of_isUse
    (h : ∀ d ∈ ds, d.call.isUse = true) :
    Accounted held ds (ds.foldl (fun held d => d.leaves held) held) := by
  induction ds generalizing held with
  | nil =>
      exact nil rfl
  | cons d rest ih =>
      have hd := h d List.mem_cons_self
      have hgrip : Grip.of (d.leaves held) = .of held := by
        cases held <;> cases hp : d.pulled <;> simp [Dealing.leaves, hp, Grip.of]
      have hone : Accounted held [d] (d.leaves held) :=
        { told := Or.inl ⟨by simp [Dealing.spares?_of_isUse hd, hgrip],
            by simp [Dealing.entrust?_of_isUse hd]⟩
          stays := by
            rintro rfl
            exact Or.inr ⟨by simp [Dealing.entrust?_of_isUse hd], d.leaves_none⟩ }
      exact hone.append (ih fun e he => h e (List.mem_cons_of_mem d he))

/-- What an opening does with a new object is accounted for: it is in hand, or it is lost. -/
def Fresh (ds : List Dealing) (held' : Option Bool) : Prop :=
  ds.foldlM Dealing.spares? .fresh = some (.of held')
      ∧ ds.foldlM Dealing.entrust? true = some held'.isSome
    ∨ ds.foldlM Dealing.spares? .fresh = none ∧ Lost (ds.foldlM Dealing.entrust? true) held'

section Openings

variable {a b d : Dealing} {url baud timeout : Value}

/-- An opening that is denied gives up what is held if it understands why. -/
theorem of_denied
    (ha : a.call = .acquire url baud timeout)
    (hfails : a.succeeds = false) :
    Accounted held [a] (if a.refuses then none else a.leaves held) := by
  cases held with
  | none =>
      constructor <;> simp [Dealing.spares?, Dealing.entrust?, Lost, Grip.of, ha, hfails]
  | some object =>
      cases hp : a.pulled <;> cases hrefuses : a.refuses <;> constructor <;>
        simp [Dealing.spares?, Dealing.entrust?, Dealing.leaves, Lost, Grip.of, ha, hfails,
          hrefuses, hp]

/-- Once a new object is handed out it is unclosed, and one that was held is lost. -/
theorem of_handed
    (ha : a.call = .acquire url baud timeout)
    (hhanded : a.succeeds = true)
    (hfresh : Fresh ds held') :
    Accounted held (a :: ds) held' := by
  cases held with
  | none =>
      refine ⟨?_, fun _ => Or.inl ?_⟩
      · simpa [Fresh, Dealing.spares?, Dealing.entrust?, Grip.of, ha, hhanded] using hfresh
      · simp [Dealing.entrust?, ha, hhanded]
  | some object =>
      refine ⟨Or.inr ⟨?_, Or.inl ?_⟩, fun hnone => by cases hnone⟩
      · simp [Dealing.spares?, Grip.of, ha, hhanded]
      · simp [Dealing.entrust?, ha, hhanded]

/-- A new object whose receive buffer cannot be emptied may be given up unclosed. -/
theorem fresh_jammed
    (object : Bool)
    (hd : d.call = .resetInput) :
    Fresh [d] (if d.refuses then none else d.leaves (some object)) := by
  cases hp : d.pulled <;> cases hrefuses : d.refuses <;>
    simp [Fresh, Dealing.spares?, Dealing.entrust?, Dealing.leaves, Lost, Grip.of, hd, hrefuses, hp]

/-- So may one whose send buffer cannot be emptied. -/
theorem fresh_clogged
    (object : Bool)
    (hb : b.call = .resetInput)
    (hemptied : b.refuses = false)
    (hd : d.call = .resetOutput) :
    Fresh [b, d] (if d.refuses then none else d.leaves (b.leaves (some object))) := by
  cases hp : d.pulled <;> cases hq : b.pulled <;> cases hrefuses : d.refuses <;>
    simp [Fresh, Dealing.spares?, Dealing.entrust?, Dealing.leaves, Lost, Grip.of, hb, hemptied, hd,
      hrefuses, hp, hq]

end Openings

end Accounted

/-! ## The operations of a serial port -/

namespace SerialPort

variable {σ : Type} {lib : SerialLibrary σ} {p : SerialPort} {l : SerialLine σ}

theorem held_givenUp
    (f : Fault)
    (l : SerialLine σ) :
    (givenUp f l).held = if f.refusesOpening then none else l.held := by
  unfold givenUp
  split <;> rfl

/-- Whichever way an opening goes, what it does to objects is accounted for. -/
theorem accounted_connect
    (hlib : lib.Plain)
    (p : SerialPort)
    (l : SerialLine σ) :
    Accounted l.held ((p.connect lib l).trace.dealings lib l.library)
      (p.connect lib l).state.held := by
  have hopens := opens_connect hlib p l
  generalize p.connect lib l = r at hopens
  cases hopens with
  | denied f hsystem hdenied =>
      obtain ⟨hfails, hrefuses⟩ := Dealing.refuses_of_failure hdenied
      have haccounted : Accounted l.held [l.dealt lib p.acquiring] _ := .of_denied rfl hfails
      rw [hrefuses] at haccounted
      rw [held_givenUp]
      exact haccounted
  | jammed f hsystem hhanded hjammed =>
      obtain ⟨-, hrefuses⟩ := Dealing.refuses_of_failure hjammed
      have hfresh := Accounted.fresh_jammed true (d := (p.handed lib l).dealt lib .resetInput) rfl
      rw [hrefuses] at hfresh
      rw [held_givenUp]
      exact .of_handed (a := l.dealt lib p.acquiring) rfl (Dealing.succeeds_of_success hhanded).1
        hfresh
  | clogged f hsystem hhanded hemptied hclogged =>
      obtain ⟨-, hrefuses⟩ := Dealing.refuses_of_failure hclogged
      have hfresh := Accounted.fresh_clogged true
        (b := (p.handed lib l).dealt lib .resetInput)
        (d := ((p.handed lib l).after lib .resetInput).dealt lib .resetOutput) rfl
        (Dealing.succeeds_of_success hemptied).2 rfl
      rw [hrefuses] at hfresh
      rw [held_givenUp]
      exact .of_handed (a := l.dealt lib p.acquiring) rfl (Dealing.succeeds_of_success hhanded).1
        hfresh
  | opened hhanded hemptied hcleared =>
      have hfresh := Accounted.fresh_clogged true
        (b := (p.handed lib l).dealt lib .resetInput)
        (d := ((p.handed lib l).after lib .resetInput).dealt lib .resetOutput) rfl
        (Dealing.succeeds_of_success hemptied).2 rfl
      rw [(Dealing.succeeds_of_success hcleared).2] at hfresh
      exact .of_handed (a := l.dealt lib p.acquiring) rfl (Dealing.succeeds_of_success hhanded).1
        hfresh

/-- A closing asks for the closing of what is held. -/
theorem accounted_disconnect
    (hlib : lib.Plain)
    (p : SerialPort)
    (l : SerialLine σ) :
    Accounted l.held ((p.disconnect lib l).trace.dealings lib l.library)
      (p.disconnect lib l).state.held := by
  cases hheld : l.held with
  | none =>
      rw [disconnect_of_none p hheld, hheld]
      exact .nil rfl
  | some object =>
      obtain ⟨note, hnote, hclosed⟩ := disconnect_of_held hlib p (l := l) (by rw [hheld]; rfl)
      have hdealings : Trace.dealings lib (.serial .release :: note) l.library =
          [l.dealt lib .release] := by
        rcases hnote with rfl | ⟨text, rfl⟩ <;> rfl
      rw [hclosed, hdealings]
      exact ⟨Or.inl ⟨rfl, rfl⟩, fun hnone => by cases hnone⟩

end SerialPort

/-! ## A cable that may be pulled at any time -/

section Shaky

variable {σ : Type}

/-- A run on a line whose held object may have lost its open flag before it. -/
def SerialLine.shaken
    {α : Type}
    (pulls : PortCall → σ → Bool)
    (c : PortCall)
    (x : Run (SerialLine σ) α) :
    Run (SerialLine σ) α := fun l =>
  x (if pulls c l.library then l.unplug else l)

/-- A serial port whose cable may be pulled before any call on it, and not only by the library. -/
def SerialPort.shakyPort (p : SerialPort) (lib : SerialLibrary σ) (pulls : PortCall → σ → Bool) :
    Port (SerialLine σ) where
  name := p.name
  isOpen := SerialLine.isOpen
  connect := SerialLine.shaken pulls .connect (p.connect lib)
  disconnect := SerialLine.shaken pulls .disconnect (p.disconnect lib)
  discard := SerialLine.shaken pulls .discard (p.discard lib)
  send bs := SerialLine.shaken pulls (.send bs) (p.send lib bs)
  receive n timeout := SerialLine.shaken pulls (.receive n timeout) (p.receive lib n timeout)

/-- Without that it is the port over the library. -/
theorem SerialPort.shakyPort_steady
    (p : SerialPort)
    (lib : SerialLibrary σ) :
    p.shakyPort lib (fun _ _ => false) = p.port lib := rfl

/-- A passage that a pulled cable follows is followed on a shaky line. -/
theorem SerialLine.follows_shaken
    {q : Passage (SerialLine σ)}
    {α : Type}
    {pulls : PortCall → σ → Bool}
    {c : PortCall}
    {x : Run (SerialLine σ) α}
    (hpulled : ∀ l, q.holds l [] l.unplug)
    (hx : Run.Follows q x) :
    Run.Follows q (shaken pulls c x) := by
  intro l
  unfold shaken
  split
  · exact q.onward (t := []) (hpulled l) (hx l.unplug)
  · exact hx l

/-- A run on a shaky line is the run on a line that holds an object if that one does. -/
theorem SerialLine.exists_shaken
    {α : Type}
    (pulls : PortCall → σ → Bool)
    (c : PortCall)
    (x : Run (SerialLine σ) α)
    (l : SerialLine σ) :
    ∃ m : SerialLine σ, shaken pulls c x l = x m ∧ m.library = l.library
      ∧ m.held.isSome = l.held.isSome := by
  unfold shaken
  split
  · exact ⟨l.unplug, rfl, rfl, Option.isSome_map⟩
  · exact ⟨l, rfl, rfl, rfl⟩

/-- A passage on the line of a port, seen from the world. -/
def Passage.onLine
    {τ : Type}
    (q : Passage σ) :
    Passage (World σ τ) where
  holds w t v := q.holds w.port t v.port
  stay w := q.stay w.port
  onward := q.onward

/-- A passage on the line embraces listeners if no entry but a call matters to it. -/
theorem Passage.onLine_embraces
    {q : Passage σ}
    {port : Port σ}
    (hemit : ∀ e : Entry, e.isCall = false → ∀ l, q.holds l [e] l)
    (hconnect : Run.Follows q port.connect)
    (hdisconnect : Run.Follows q port.disconnect)
    (hdiscard : Run.Follows q port.discard)
    (hsend : ∀ bs, Run.Follows q (port.send bs))
    (hreceive : ∀ n timeout, Run.Follows q (port.receive n timeout)) :
    (q.onLine : Passage (World σ Audience)).Embraces port where
  emit e he w := hemit e he w.port
  change _ w := q.stay w.port
  connect w := hconnect w.port
  disconnect w := hdisconnect w.port
  discard w := hdiscard w.port
  send bs w := hsend bs w.port
  receive n timeout w := hreceive n timeout w.port
  next w _ := q.stay w.port

end Shaky

/-! ## Along runs of a courier -/

/-- Along a run on a line the library answers, and objects are accounted for. -/
def Passage.custody {σ : Type} (lib : SerialLibrary σ) : Passage (SerialLine σ) where
  holds l t r :=
    t.library lib l.library = r.library
      ∧ Accounted l.held (t.dealings lib l.library) r.held
  stay l := ⟨rfl, .nil rfl⟩
  onward := by
    rintro l t r u q ⟨hlibrary, haccounted⟩ ⟨klibrary, kaccounted⟩
    rw [Trace.library_append, Trace.dealings_append, hlibrary]
    exact ⟨klibrary, haccounted.append kaccounted⟩

namespace SerialPort

variable {σ : Type} {lib : SerialLibrary σ}

theorem custody_of_uses
    {α : Type}
    {x : Run (SerialLine σ) α}
    (hx : Run.Follows (.uses lib) x) :
    Run.Follows (.custody lib) x := by
  intro l
  obtain ⟨hlibrary, hcalls, hheld⟩ := hx l
  refine ⟨hlibrary, ?_⟩
  rw [hheld]
  exact .of_isUse hcalls

theorem custody_unplug
    (l : SerialLine σ) :
    (Passage.custody lib).holds l [] l.unplug := by
  refine ⟨rfl, .nil ?_⟩
  change (l.held.map _).isSome = _
  exact Option.isSome_map

/-- Everything that a courier and its listeners do keeps the account of objects. -/
theorem custody_embraces
    (hlib : lib.Plain)
    (p : SerialPort)
    (pulls : PortCall → σ → Bool) :
    ((Passage.custody lib).onLine : Passage (World (SerialLine σ) Audience)).Embraces
      (p.shakyPort lib pulls) := by
  refine Passage.onLine_embraces (fun e he l => ⟨?_, ?_⟩) ?_ ?_ ?_ (fun bs => ?_)
    fun n timeout => ?_
  · exact Entry.library_of_not_isCall lib he l.library
  · cases e with
    | serial c =>
        cases he
    | _ =>
        exact .nil rfl
  · exact SerialLine.follows_shaken custody_unplug fun l =>
      ⟨p.answered_connect l, accounted_connect hlib p l⟩
  · exact SerialLine.follows_shaken custody_unplug fun l =>
      ⟨p.answered_disconnect l, accounted_disconnect hlib p l⟩
  · exact SerialLine.follows_shaken custody_unplug (custody_of_uses p.uses_discard)
  · exact SerialLine.follows_shaken custody_unplug (custody_of_uses (p.uses_send bs))
  · exact SerialLine.follows_shaken custody_unplug (custody_of_uses (p.uses_receive n timeout))

/-- No object that was handed out is lost along dealings: none is replaced unclosed, and one that
is still unclosed at their end is held. -/
def LosesNothing (held : Option Bool) (ds : List Dealing) (held' : Option Bool) : Prop :=
  ∃ unclosed, ds.foldlM Dealing.entrust? held.isSome = some unclosed
    ∧ (unclosed = true → held'.isSome = true)

end SerialPort

/-- Objects are lost just where the dealings are careless. -/
theorem Accounted.losesNothing_iff
    {held held' : Option Bool}
    {ds : List Dealing}
    (h : Accounted held ds held') :
    SerialPort.LosesNothing held ds held' ↔
      (ds.foldlM Dealing.spares? (.of held)).isSome = true := by
  rcases h.told with ⟨hspared, hunclosed⟩ | ⟨hcareless, hlost⟩
  · rw [hspared]
    exact iff_of_true ⟨_, hunclosed, id⟩ rfl
  · rw [hcareless]
    refine iff_of_false ?_ (by simp)
    rintro ⟨unclosed, hsome, hheld⟩
    rcases hlost with hnone | ⟨htrue, hnone⟩
    · rw [hnone] at hsome
      cases hsome
    · rw [htrue] at hsome
      cases hsome
      rw [hnone] at hheld
      exact absurd (hheld rfl) (by decide)

namespace World

variable {σ : Type} {lib : SerialLibrary σ}

/-- In a row of operations over a serial port no object is lost just as long as no opening that
is not beyond the port begins while an object is held, and none hands an object out that
cannot be emptied. -/
theorem custody_kept_iff
    (hlib : lib.Plain)
    (p : SerialPort)
    (pulls : PortCall → σ → Bool)
    (ops : List Operation)
    (w : World (SerialLine σ) Audience) :
    let port := p.shakyPort lib pulls
    let ds := (chronicle port ops w).dealings lib w.port.library
    SerialPort.LosesNothing w.port.held ds (reached port ops w).port.held ↔
      (ds.foldlM Dealing.spares? (.of w.port.held)).isSome = true := by
  intro port ds
  have hfollows : ∀ op ∈ ops, Run.Follows (Passage.custody lib).onLine (step port op) :=
    fun op _ w => embraced_performNested (SerialPort.custody_embraces hlib p pulls) _ op w
  exact (holds_chronicle hfollows w).2.losesNothing_iff

/-- A link that fails in a write is closed before the next tick opens it again. -/
theorem custody_kept_reopened :
    let p : SerialPort := ⟨.text "dev0", .int 9600, .float SerialPort.usualTimeout⟩
    let port := p.shakyPort .ofAnswers fun _ _ => false
    let w := unopened [(.nothing, false), (.nothing, false), (.nothing, false),
      (.halts (.fault (.device .serial "lost")), false)] []
    SerialPort.LosesNothing w.port.held
      ((chronicle port [.poll, .poll] w).dealings .ofAnswers w.port.library)
      (reached port [.poll, .poll] w).port.held := by
  intro p port w
  have hspared :
      (((chronicle port [.poll, .poll] w).dealings .ofAnswers w.port.library).foldlM
        Dealing.spares? (.of w.port.held)).isSome = true := by decide +kernel
  have hkept := custody_kept_iff SerialLibrary.ofAnswers_plain p (fun _ _ => false) [.poll, .poll] w
  clear_value w
  exact hkept.mpr hspared

/-- An object is lost that cannot be emptied when it is new; so is one that has lost its open
flag by the next tick, whether another is handed out then or not. -/
theorem custody_broken :
    let p : SerialPort := ⟨.text "dev0", .int 9600, .float SerialPort.usualTimeout⟩
    let port := p.shakyPort .ofAnswers fun _ _ => false
    let refusal : Answer × Bool := (.halts (.fault (.device .serial "boom")), false)
    let pulled : List (Answer × Bool) :=
      List.replicate 6 (.nothing, false) ++ [(.bytes (List.replicate 11 0), true)]
    SerialLibrary.ofAnswers.Plain ∧
      ∀ answers ∈ [[(.nothing, false), refusal], pulled, pulled ++ [refusal]],
        let w := unopened answers []
        ¬ SerialPort.LosesNothing w.port.held
          ((chronicle port [.poll, .poll] w).dealings .ofAnswers w.port.library)
          (reached port [.poll, .poll] w).port.held := by
  refine ⟨SerialLibrary.ofAnswers_plain, ?_⟩
  unfold SerialPort.LosesNothing
  decide +kernel

end World

end AcceptorHost
