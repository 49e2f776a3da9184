import AcceptorHost.Link.Script
import AcceptorHost.Proofs.Chronicle
import AcceptorHost.Proofs.Courtesy
import AcceptorHost.Proofs.Replies
import AcceptorHost.Proofs.TickCases

/-!
# Credits

A reply is worth a credit if it is a frame that reports a stacked bill with an index
other than zero.  What a listener hears of credits in a row of operations is what the
replies of its polls are worth: one credit for each poll that takes no request and
reads such a reply, in order, and no other.
-/

namespace AcceptorHost

/-- An event is a credit. -/
def Event.isCredit : Event → Bool
  | .credit _ _ => true
  | _ => false

namespace Reply

/-- The credit that received bytes are worth, if they are worth one. -/
def creditFor (names : List Value) (x : List UInt8) : Option Event :=
  let index := ((dataByte x 2 >>> 3) &&& 0x07).toNat
  if Frame.accepts x && dataByte x 0 &&& 0x10 != 0 && index != 0 then
    some (.credit (names.getD (index - 1) .null) (HexText.spaced x))
  else none

/-- The credit that the reading of a reply is worth. -/
def creditOf (names : List Value) : Except Halt (List UInt8) → Option Event
  | .ok x => creditFor names x
  | .error _ => none

/-- What a tick is worth that took a request and read replies: the reply, if it took none. -/
def worth (names : List Value) (replies : List (List UInt8)) : Option Request → List Event
  | none => (replies.head?.bind (creditFor names)).toList
  | some _ => []

theorem creditFor_eq
    (names : List Value)
    (x : List UInt8) :
    creditFor names x =
      if Frame.accepts x && dataByte x 0 &&& 0x10 != 0 && billIndex (dataByte x 2) != 0 then
        some (.credit (names.getD (billIndex (dataByte x 2) - 1) .null) (HexText.spaced x))
      else none := rfl

theorem creditFor_of_rejected
    (names : List Value)
    {x : List UInt8}
    (hx : Frame.accepts x = false) :
    creditFor names x = none := by
  simp [creditFor, hx]

theorem filter_isCredit_map_eventOf
    (p : Reply)
    (kinds : List DeviceEvent) :
    (kinds.map (World.eventOf p)).filter Event.isCredit =
      (kinds.filter (· == .credit)).map (World.eventOf p) := by
  rw [List.filter_map]
  congr 2
  funext kind
  cases kind <;> rfl

theorem billIndex_le
    (condition : UInt8) :
    billIndex condition ≤ 7 := by
  unfold billIndex
  rw [UInt8.toNat_and]
  exact Nat.and_le_right

/-- The name of a bill with an index is one of the names. -/
theorem nameOf_mem
    {c : Codec}
    {index : Nat}
    (hzero : index ≠ 0)
    (hindex : index ≤ 7) :
    nameOf c index = c.billNames.getD (index - 1) .null ∧ nameOf c index ∈ c.billNames := by
  have hlength : index - 1 < c.billNames.length := by
    rw [c.seven_names]
    omega
  have hname : nameOf c index = c.billNames.getD (index - 1) .null := by
    unfold nameOf
    rw [if_neg hzero]
  refine ⟨hname, ?_⟩
  rw [hname, List.getD_eq_getElem?_getD, List.getElem?_eq_getElem hlength]
  exact List.getElem_mem hlength

/-- Among what a frame gives to tell, its credit is what it is worth. -/
theorem filter_isCredit_decode
    {c : Codec}
    {x : List UInt8}
    (hnames : ∀ v ∈ c.billNames, ∃ s, s ≠ "" ∧ v = .text s)
    (hx : Frame.accepts x = true) :
    ((decode c x).events.map (World.eventOf (decode c x))).filter Event.isCredit =
      (creditFor c.billNames x).toList := by
  have hcredit := credit_not_mem_reported (dataByte x 0) (dataByte x 1) (dataByte x 2)
  have hstacked := stacked_mem_reported (dataByte x 0) (dataByte x 1) (dataByte x 2)
  have hplain :
      (reported (dataByte x 0) (dataByte x 1) (dataByte x 2)).filter (· == .credit) = [] := by
    rw [List.filter_eq_nil_iff]
    intro kind hkind hsame
    rw [eq_of_beq hsame] at hkind
    exact hcredit hkind
  rw [filter_isCredit_map_eventOf]
  by_cases hindex : billIndex (dataByte x 2) = 0
  · have hevents :
        (decode c x).events = reported (dataByte x 0) (dataByte x 1) (dataByte x 2) := by
      simp [decode, hindex, nameOf]
    have hnone : creditFor c.billNames x = none := by
      simp [creditFor_eq, hindex]
    rw [hevents, hplain, hnone]
    rfl
  · obtain ⟨hname, hmem⟩ := nameOf_mem (c := c) hindex (billIndex_le _)
    obtain ⟨s, hs, htext⟩ := hnames _ hmem
    by_cases hbit : dataByte x 0 &&& 0x10 = 0
    · have hevents :
          (decode c x).events = reported (dataByte x 0) (dataByte x 1) (dataByte x 2) := by
        have habsent : DeviceEvent.stacked ∉
            reported (dataByte x 0) (dataByte x 1) (dataByte x 2) := by
          rw [hstacked, hbit]
          simp
        simp [decode, habsent]
      have hnone : creditFor c.billNames x = none := by
        simp [creditFor, hbit]
      rw [hevents, hplain, hnone]
      rfl
    · have hevents :
          (decode c x).events =
            reported (dataByte x 0) (dataByte x 1) (dataByte x 2) ++ [.credit] := by
        have hpresent : DeviceEvent.stacked ∈
            reported (dataByte x 0) (dataByte x 1) (dataByte x 2) := hstacked.mpr hbit
        simp [decode, hpresent, htext]
      have hshown : World.shownName (decode c x).billName = (decode c x).billName := by
        have htruth : (decode c x).billName.truth = true := by
          change (nameOf c (billIndex (dataByte x 2))).truth = true
          rw [htext]
          simpa [Value.truth] using hs
        unfold World.shownName
        rw [if_pos htruth]
      have hsome :
          creditFor c.billNames x =
            some (Event.credit (decode c x).billName (HexText.spaced x)) := by
        change _ = some (Event.credit (nameOf c (billIndex (dataByte x 2))) _)
        rw [hname, creditFor_eq]
        simp [hx, hbit, hindex]
      rw [hevents, List.filter_append, hplain, hsome]
      change [Event.credit (World.shownName (decode c x).billName) (decode c x).raw] = _
      rw [hshown]
      rfl

end Reply

namespace Act

/-- The credits among what acts tell. -/
def credits (acts : List Act) : List Event := (events acts).filter Event.isCredit

theorem credits_append
    (a b : List Act) :
    credits (a ++ b) = credits a ++ credits b := by
  simp [credits]

end Act

namespace Vantage

variable {σ τ : Type} {V : Vantage σ τ} {n : String}

theorem Collection.worth
    (names : List Value)
    {d e : Desk σ}
    {acts : List Act}
    {result : Except Halt (List UInt8)}
    (h : V.Collection d acts result e) :
    (Act.replies acts).head?.bind (Reply.creditFor names) =
      Reply.creditOf names result := by
  cases h with
  | failed h ha =>
      rfl
  | blank ha =>
      rfl
  | accepted x ha hx =>
      rfl
  | dropped x a ha hx hb hok =>
      exact Reply.creditFor_of_rejected names hx
  | stuck x h ha hx hb =>
      exact Reply.creditFor_of_rejected names hx

theorem Inquiry.worth
    (names : List Value)
    {bytes : List UInt8}
    {d e : Desk σ}
    {acts : List Act}
    {result : Except Halt (List UInt8)}
    (h : V.Inquiry bytes d acts result e) :
    (Act.replies acts).head?.bind (Reply.creditFor names) =
      Reply.creditOf names result := by
  cases h with
  | unsent h ha =>
      simp [Act.replies_called, Reply.creditOf]
  | sent a ha hok hread =>
      simpa [Act.replies_called] using hread.worth names

variable (hwatch : V.watch = some n)
include hwatch

theorem credits_tell_traffic
    (direction : Direction)
    (text : String) :
    Act.credits (V.tell (.traffic direction text)) = [] := by
  unfold Act.credits
  rw [events_tell hwatch]
  rfl

theorem Collection.credits
    {d e : Desk σ}
    {acts : List Act}
    {result : Except Halt (List UInt8)}
    (h : V.Collection d acts result e) :
    Act.credits acts = [] := by
  cases h <;> simp [Act.credits, events_tell hwatch, Event.isCredit]

theorem Inquiry.credits
    {bytes : List UInt8}
    {d e : Desk σ}
    {acts : List Act}
    {result : Except Halt (List UInt8)}
    (h : V.Inquiry bytes d acts result e) :
    Act.credits acts = [] := by
  cases h with
  | unsent h ha =>
      rw [Act.credits_append, credits_tell_traffic hwatch]
      rfl
  | sent a ha hok hread =>
      rw [Act.credits_append, credits_tell_traffic hwatch]
      exact hread.credits hwatch

/-- An exchange tells the credit that it is worth. -/
theorem Service.credits
    {d e : Desk σ}
    {request : Option Request}
    {acts : List Act}
    {result : Except Halt Unit}
    (hnames : ∀ v ∈ d.codec.billNames, ∃ s, s ≠ "" ∧ v = .text s)
    (h : V.Service d request acts result e) :
    Act.credits acts = Reply.worth d.codec.billNames (Act.replies acts) request := by
  cases h with
  | failed h hrequest hask =>
      rw [hask.credits hwatch]
      cases request with
      | none =>
          have hworth := hask.worth d.codec.billNames
          simp [Reply.worth, hworth, Reply.creditOf]
      | some r =>
          rfl
  | dropped hrequest hask =>
      rw [hask.credits hwatch]
      cases request with
      | none =>
          have hworth := hask.worth d.codec.billNames
          have hnone : Reply.creditFor d.codec.billNames [] = none :=
            Reply.creditFor_of_rejected _ rfl
          simp [Reply.worth, hworth, Reply.creditOf, hnone]
      | some r =>
          rfl
  | @answered request acts k x hrequest hx hask =>
      rw [Act.credits_append, hask.credits hwatch]
      cases request with
      | none =>
          have hsame : k.codec.billNames = d.codec.billNames :=
            congrArg Standing.billNames (hask.standing_eq.trans d.standing_turned)
          have hnews := Reply.filter_isCredit_decode (c := k.codec) (by rwa [hsame]) hx
          have hworth := hask.worth d.codec.billNames
          simp only [Reply.worth, Act.replies_append, replies_flatMap_tell, List.append_nil, hworth,
            Act.credits, events_flatMap_tell hwatch, Reply.creditOf, List.nil_append]
          rw [← hsame]
          exact hnews
      | some r =>
          rfl
  | resetUnsent bytes h hbytes ha =>
      rw [Act.credits_append, credits_tell_traffic hwatch]
      rfl
  | resetUnclosed bytes a h hbytes ha hok hb =>
      rw [Act.credits_append, credits_tell_traffic hwatch]
      rfl
  | resetRested bytes a b c e hbytes ha hok hb hokb he hc =>
      rw [Act.credits_append, credits_tell_traffic hwatch]
      rfl

theorem Opened.credits
    {d e : Desk σ}
    {request : Option Request}
    {acts : List Act}
    {result : Except Halt Unit}
    (hnames : ∀ v ∈ d.codec.billNames, ∃ s, s ≠ "" ∧ v = .text s)
    (h : V.Opened d request acts result e) :
    Act.credits acts = Reply.worth d.codec.billNames (Act.replies acts) request := by
  cases h with
  | ready hopen hserve =>
      exact hserve.credits hwatch hnames
  | refused h hopen ha =>
      cases request <;> rfl
  | opened a hopen ha hok hserve =>
      have hserved := Service.credits hwatch (d := d.after V.peer .connect) hnames hserve
      exact hserved

theorem credits_alarmActs
    (d : Desk σ) :
    Act.credits (V.alarmActs d) = [] := by
  unfold alarmActs Desk.alarm
  cases Policy.reached d.policy.retryLimit d.record.failures with
  | error f =>
      rfl
  | ok reached =>
      cases reached with
      | false =>
          rfl
      | true =>
          simp [Except.map, Act.credits, events_tell hwatch, Event.isCredit]

/-- A tick tells the credit that it is worth. -/
theorem Course.credits
    {d e : Desk σ}
    {request : Option Request}
    {acts : List Act}
    {result : Except Halt Unit}
    (hnames : ∀ v ∈ d.codec.billNames, ∃ s, s ≠ "" ∧ v = .text s)
    (h : V.Course d request acts result e) :
    Act.credits acts = Reply.worth d.codec.billNames (Act.replies acts) request := by
  cases h with
  | completed hserve =>
      exact hserve.credits hwatch hnames
  | missed f hup hserve =>
      rw [Act.credits_append, credits_alarmActs hwatch, List.append_nil, Act.replies_append,
        replies_alarmActs, List.append_nil]
      exact hserve.credits hwatch hnames
  | severed text a hserve ha hok =>
      rw [Act.credits_append, Act.replies_append, Act.replies_called (by simp),
        replies_alarmActs, List.append_nil]
      change _ ++ Act.credits (V.alarmActs _) = _
      rw [credits_alarmActs hwatch, List.append_nil]
      exact hserve.credits hwatch hnames
  | escaped text h hserve ha =>
      rw [Act.credits_append, Act.replies_append, Act.replies_called (by simp),
        Act.replies_nil, List.append_nil]
      change _ ++ [] = _
      rw [List.append_nil]
      exact hserve.credits hwatch hnames
  | exited status hserve =>
      exact hserve.credits hwatch hnames

end Vantage

/-! ## Rows of operations -/

/-- An operation is a tick on the caller. -/
def Operation.isPoll : Operation → Bool
  | .poll => true
  | _ => false

namespace World

variable {σ : Type}

/-- The credits that a row of operations is worth: those of its polls, one after another. -/
def creditsDue (port : Port (AnsweredLine σ)) (peer : Peer σ)
    (names : List Value) : List Operation → World (AnsweredLine σ) Audience → List Event
  | [], _ => []
  | op :: rest, w =>
      let r := step port op w
      (if op.isPoll then
          Reply.worth names (r.trace.replies peer w.port.party)
            w.courier.control.mailbox.take.1
        else [])
        ++ creditsDue port peer names rest r.state

variable {peer : Peer σ} {who : Listener}

/-- A poll has a course, and a listener that is attended to hears what the course tells. -/
theorem exists_course_poll
    (name : Value)
    {w : World (AnsweredLine σ) Audience}
    (hw : (Vantage.courteous peer (some who) true).Orderly w) :
    let r := step (answeredPort name peer) .poll w
    ∃ (acts : List Act) (result : Except Halt Unit) (e : Desk σ),
      (Vantage.courteous peer (some who) true).Course w.desk
          w.courier.control.mailbox.take.1 acts result e
        ∧ r.trace.heardBy who.name = Act.events acts
        ∧ r.trace.replies peer w.port.party = Act.replies acts
        ∧ r.state.courier.codec = e.codec
        ∧ (Vantage.courteous peer (some who) true).Orderly r.state := by
  intro r
  obtain ⟨acts, result, e, hcourse, hleaves⟩ :=
    Vantage.leaves_poll name (Vantage.discreet_hear _ w.audience.depth) w hw
  have hacts : r.trace.acts peer (some who.name) w.port.party = acts :=
    hleaves.acts_eq
  have hreplies : r.trace.replies peer w.port.party = Act.replies acts := by
    rw [← hacts, Trace.replies_acts]
    rfl
  refine ⟨acts, result, e, hcourse, ?_, hreplies, congrArg Desk.codec hleaves.desk_eq,
    hleaves.orderly⟩
  rw [Trace.heardBy_eq_events peer who.name r.trace w.port.party, hacts]

/-- An operation tells the credits that it is worth, and the listener stays attended to. -/
theorem step_credits
    (name : Value)
    {op : Operation}
    {w : World (AnsweredLine σ) Audience}
    (hnames : ∀ v ∈ w.courier.codec.billNames, ∃ s, s ≠ "" ∧ v = .text s)
    (hop : op.isPoll = true ∨ (Reaction.performs op).isCourteous true (some who) = true)
    (hw : (Vantage.courteous peer (some who) true).Orderly w) :
    let r := step (answeredPort name peer) op w
    (r.trace.heardBy who.name).filter Event.isCredit =
        (if op.isPoll then
          Reply.worth w.courier.codec.billNames (r.trace.replies peer w.port.party)
            w.courier.control.mailbox.take.1
        else [])
      ∧ (Vantage.courteous peer (some who) true).Orderly r.state
      ∧ r.state.courier.codec.billNames = w.courier.codec.billNames := by
  intro r
  rcases hop with hpoll | haside
  · cases op with
    | poll =>
        obtain ⟨acts, result, e, hcourse, hheard, hreplies, hcodec, horder⟩ :=
          exists_course_poll name hw
        rw [hheard, hreplies, hcodec]
        exact ⟨hcourse.credits rfl hnames, horder, hcourse.billNames_eq⟩
    | _ =>
        cases hpoll
  · have hquiet : Run.Follows (Vantage.hush peer (some who) true)
        (performNested (answeredPort name peer) (w.audience.depth + 1) op) :=
      Vantage.hush_performNested _ _ op haside
    obtain ⟨⟨hacts, -, hdesk⟩, horder⟩ := hquiet w hw
    have hpoll : op.isPoll = false := by
      cases op with
      | poll =>
          cases haside
      | _ =>
          rfl
    have hnone : r.trace.acts peer (some who.name) w.port.party = [] := hacts
    refine ⟨?_, horder, congrArg (fun d => d.codec.billNames) hdesk⟩
    rw [Trace.heardBy_eq_events peer who.name r.trace w.port.party, hnone, hpoll]
    rfl

/-- Over a row of polls and requests, a listener that stays registered hears a credit for
each poll that takes no request and reads a frame that is worth one, in order and no more. -/
theorem heard_credits_eq_due
    {w : World (AnsweredLine σ) Audience}
    (name : Value)
    (ops : List Operation)
    (hnames : ∀ v ∈ w.courier.codec.billNames, ∃ s, s ≠ "" ∧ v = .text s)
    (hwho : w.courier.listeners.Attends who)
    (hplans : w.audience.Plans (Reaction.isCourteous true (some who)))
    (hops : ∀ op ∈ ops,
      op.isPoll = true ∨ (Reaction.performs op).isCourteous true (some who) = true) :
    let port := answeredPort name peer
    ((chronicle port ops w).heardBy who.name).filter Event.isCredit =
      creditsDue port peer w.courier.codec.billNames ops w := by
  intro port
  have hw : (Vantage.courteous peer (some who) true).Orderly w := by
    refine ⟨⟨?_, Or.inl rfl⟩, hplans⟩
    rintro l ⟨⟩
    exact hwho
  clear hwho hplans
  induction ops generalizing w with
  | nil =>
      rfl
  | cons op rest ih =>
      have hfirst := hops op List.mem_cons_self
      have hrest : ∀ o ∈ rest,
          o.isPoll = true ∨ (Reaction.performs o).isCourteous true (some who) = true :=
        fun o ho => hops o (List.mem_cons_of_mem op ho)
      obtain ⟨hcredits, horder, hsame⟩ := step_credits name hnames hfirst hw
      -- The codec may have turned over, but with the same names, so what is due is the same.
      have hlater := ih (w := (step port op w).state) (by rwa [hsame]) hrest horder
      rw [chronicle_cons, Trace.heardBy_append, List.filter_append, hcredits, hlater, hsame]
      rfl

/-- A frame that reports a stacked bill of the first index. -/
def stackedFrame : List UInt8 :=
  Frame.encode Frame.replyType [0x10, 0x10, 0x08, 0x00, 0x00, 0x00]

/-- Of three polls of which one serves a reset, two are credited. -/
theorem heard_credits_stacked :
    ((chronicle (answeredPort .null (.steady Script.portResponder))
        [.poll, .request .reset, .poll, .poll]
        (unused ⟨[], .bytes stackedFrame⟩ [⟨⟨"rec", .null⟩, []⟩])).heardBy "rec").filter
        Event.isCredit =
      [.credit (.text "$1") "02 0B 20 10 10 08 00 00 00 03 23",
        .credit (.text "$1") "02 0B 20 10 10 08 00 00 00 03 23"] := by
  have hnames : ∀ v ∈ Codec.usual.billNames, ∃ s, s ≠ "" ∧ v = .text s := by
    simp [Codec.usual, Codec.usualBillNames]
  have hwho : Registry.Attends ⟨"rec", .null⟩ ⟨[⟨"rec", .null⟩]⟩ := rfl
  have hplans : Audience.Plans (Reaction.isCourteous true (some ⟨"rec", .null⟩))
      [⟨⟨"rec", .null⟩, []⟩] := Audience.plans_planless _
  have hops : ∀ op ∈ [Operation.poll, .request .reset, .poll, .poll],
      op.isPoll = true
        ∨ (Reaction.performs op).isCourteous true (some ⟨"rec", .null⟩) = true := by
    simp [Operation.isPoll, Reaction.isCourteous, Operation.isAside, Operation.spares]
  refine Eq.trans (heard_credits_eq_due
    (w := unused (⟨[], .bytes stackedFrame⟩ : Script) [⟨⟨"rec", .null⟩, []⟩])
    .null _ hnames hwho hplans hops) ?_
  decide +kernel

end World

end AcceptorHost
