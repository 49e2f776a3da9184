import AcceptorHost.Proofs.Matching
import AcceptorHost.Proofs.Printing
import AcceptorHost.Proofs.ReplyBits

/-!
# A reply that is read twice

The acceptor reports its whole state in every reply.  A printer that shows no traffic is
silent over a state that it remembers, but it remembers one label, and a reply may report
several states: each of them but the first follows another, and the first follows the last
one of the reply before.  So of a reply that comes again nothing but its credit is printed
exactly when it reports one state at most; otherwise all of it is printed again.
-/

namespace AcceptorHost

namespace EventPrinter

variable {p : EventPrinter} {es : List Event}

/-- The lines that a row of events prints. -/
def lines (p : EventPrinter) (es : List Event) : List String := (p.outputs es).reduceOption

theorem lines_cons
    (p : EventPrinter)
    (e : Event)
    (rest : List Event) :
    p.lines (e :: rest) = (p.hear e).2.toList ++ (p.hear e).1.lines rest := by
  unfold lines
  rw [outputs_cons]
  cases (p.hear e).2 <;> rfl

theorem after_cons
    (p : EventPrinter)
    (e : Event)
    (rest : List Event) :
    p.after (e :: rest) = (p.hear e).1.after rest := rfl

/-- A line is that of a credit. -/
def IsCreditLine (text : String) : Prop := "[CREDIT] ".toList <+: text.toList

instance : DecidablePred IsCreditLine :=
  fun text => inferInstanceAs (Decidable ("[CREDIT] ".toList <+: text.toList))

theorem isCreditLine_of_isCredit
    {e : Event}
    (h : e.isCredit = true) :
    IsCreditLine (line e) := by
  cases e with
  | credit name raw =>
      exact ⟨name.display.toList, String.toList_append.symm⟩
  | _ =>
      cases h

/-- The line of a state is that of no credit. -/
theorem not_isCreditLine_of_stateKey?
    {e : Event}
    {key : StateKey}
    (h : e.stateKey? = some key) :
    ¬ IsCreditLine (line e) := by
  cases e with
  | device kind raw =>
      have hall : ∀ k ∈ DeviceEvent.all, ¬ IsCreditLine (line (.device k "")) := by
        unfold IsCreditLine
        decide
      exact fun hline => hall kind (DeviceEvent.mem_all kind) (by cases kind <;> exact hline)
  | escrowed name raw =>
      unfold IsCreditLine line
      rw [String.toList_append, String.toList_append]
      rintro ⟨rest, hrest⟩
      cases hrest
  | _ =>
      cases h

/-- Traffic that is not shown prints nothing and leaves no memory. -/
theorem filter_isNews_heard
    (hquiet : p.showTraffic = false)
    (hes : ∀ e ∈ es, e.isTraffic = true ∨ e.isNews = true) :
    p.lines es = p.lines (es.filter Event.isNews) ∧
      p.after es = p.after (es.filter Event.isNews) := by
  induction es generalizing p with
  | nil =>
      exact ⟨rfl, rfl⟩
  | cons e rest ih =>
      obtain ⟨he, hrest⟩ := List.forall_mem_cons.mp hes
      obtain ⟨hlines, hafter⟩ := ih ((showTraffic_hear p e).trans hquiet) hrest
      cases hnews : e.isNews with
      | true =>
          rw [List.filter_cons_of_pos hnews, lines_cons, lines_cons, after_cons, after_cons, hlines,
            hafter]
          exact ⟨rfl, rfl⟩
      | false =>
          have hhear : p.hear e = (p, none) := by
            cases e with
            | traffic direction text =>
                exact congrArg (Prod.mk p) (if_neg (by simp [hquiet]))
            | _ =>
                simp [hnews, Event.isTraffic] at he
          rw [hhear] at hlines hafter
          rw [List.filter_cons_of_neg (by simp [hnews]), lines_cons, after_cons, hhear, hlines,
            hafter]
          exact ⟨rfl, rfl⟩

/-- Without a failure the printer remembers the last state, or what it did before. -/
theorem lastLabel_after
    (hes : ∀ e ∈ es, e.isAlarm = false) :
    (p.after es).lastLabel =
      ((es.filterMap Event.stateKey?).getLast?.map StateKey.label).or p.lastLabel := by
  induction es generalizing p with
  | nil =>
      rfl
  | cons e rest ih =>
      obtain ⟨halarm, hrest⟩ := List.forall_mem_cons.mp hes
      rw [after_cons, ih hrest]
      cases hkey : e.stateKey? with
      | none =>
          rw [List.filterMap_cons_none hkey, hear_of_neither hkey halarm]
      | some key =>
          have hlabel : (p.hear e).1.lastLabel = some key.label := by
            rw [hear_of_stateKey? hkey]
            split
            · assumption
            · rfl
          rw [List.filterMap_cons_some hkey, hlabel, List.getLast?_cons]
          cases (rest.filterMap Event.stateKey?).getLast? <;> rfl

/-- While every state is the remembered one, only credits print. -/
theorem lines_of_remembered
    (hnews : ∀ e ∈ es, e.isNews = true)
    (hkeys : ∀ key ∈ es.filterMap Event.stateKey?, p.lastLabel = some key.label) :
    p.lines es = (es.filter Event.isCredit).map line := by
  induction es with
  | nil =>
      rfl
  | cons e rest ih =>
      obtain ⟨he, hrest⟩ := List.forall_mem_cons.mp hnews
      rw [lines_cons]
      cases hkey : e.stateKey? with
      | none =>
          rw [List.filterMap_cons_none hkey] at hkeys
          cases e with
          | credit name raw =>
              exact congrArg (line (.credit name raw) :: ·) (ih hrest hkeys)
          | device kind raw | escrowed name raw =>
              cases hkey
          | _ =>
              cases he
      | some key =>
          rw [List.filterMap_cons_some hkey] at hkeys
          obtain ⟨hfirst, hkeys⟩ := List.forall_mem_cons.mp hkeys
          have hcredit : ¬ e.isCredit = true := by
            cases e with
            | credit name raw =>
                cases hkey
            | _ =>
                exact Bool.false_ne_true
          rw [hear_of_stateKey? hkey, if_pos hfirst, List.filter_cons_of_neg hcredit]
          exact ih hrest hkeys

/-- While no state follows itself, all news print. -/
theorem lines_of_isChain
    (hnews : ∀ e ∈ es, e.isNews = true)
    (hfirst : ∀ key ∈ (es.filterMap Event.stateKey?).head?, p.lastLabel ≠ some key.label)
    (hchain : (es.filterMap Event.stateKey?).IsChain (· ≠ ·)) :
    p.lines es = es.map line := by
  induction es generalizing p with
  | nil =>
      rfl
  | cons e rest ih =>
      obtain ⟨he, hrest⟩ := List.forall_mem_cons.mp hnews
      rw [lines_cons]
      cases hkey : e.stateKey? with
      | none =>
          rw [List.filterMap_cons_none hkey] at hfirst hchain
          cases e with
          | credit name raw =>
              exact congrArg (line (.credit name raw) :: ·) (ih hrest hfirst hchain)
          | device kind raw | escrowed name raw =>
              cases hkey
          | _ =>
              cases he
      | some key =>
          rw [List.filterMap_cons_some hkey] at hfirst hchain
          obtain ⟨hnext, hchain⟩ := List.isChain_cons.mp hchain
          rw [hear_of_stateKey? hkey, if_neg (hfirst key rfl)]
          refine congrArg (line e :: ·) (ih hrest (fun other hother hsame => ?_) hchain)
          exact hnext other hother (StateKey.label_injective (Option.some.inj hsame))

/-- News with distinct states that are heard twice in a row print their credits alone the second
time if there is one state at most, and else all of them. -/
theorem lines_again
    (hnews : ∀ e ∈ es, e.isNews = true)
    (hdistinct : (es.filterMap Event.stateKey?).Nodup) :
    (p.after es).lines es =
      if (es.filterMap Event.stateKey?).length ≤ 1 then (es.filter Event.isCredit).map line
      else es.map line := by
  have halarm : ∀ e ∈ es, e.isAlarm = false := by
    intro e he
    have hkind := hnews e he
    cases e with
    | connectionFailure count =>
        cases hkind
    | _ =>
        rfl
  have hlast := lastLabel_after (p := p) halarm
  cases hkeys : es.filterMap Event.stateKey? with
  | nil =>
      rw [if_pos (by simp)]
      exact lines_of_remembered hnews (by simp [hkeys])
  | cons first rest =>
      rw [hkeys] at hlast hdistinct
      cases rest with
      | nil =>
          rw [if_pos (by simp)]
          refine lines_of_remembered hnews fun key hkey => ?_
          rw [hkeys, List.mem_singleton] at hkey
          rw [hlast, hkey]
          rfl
      | cons second rest =>
          rw [if_neg (by simp)]
          refine lines_of_isChain hnews ?_ (hkeys ▸ hdistinct.isChain)
          -- What is remembered is the last state, which is not the first.
          rw [hkeys, hlast, List.getLast?_cons_cons, List.getLast?_eq_getLast_of_ne_nil (by simp)]
          rintro key ⟨⟩ hsame
          have hlabel := StateKey.label_injective (Option.some.inj hsame)
          exact (List.nodup_cons.mp hdistinct).1 (hlabel ▸ List.getLast_mem _)

end EventPrinter

/-! ## The states of a reply -/

namespace Reply

/-- The states and conditions that received bytes report, in the order of their bits. -/
def states (x : List UInt8) : List DeviceEvent :=
  DeviceEvent.all.filter fun e => e != .credit && reports x e

theorem reported_eq_states
    (x : List UInt8) :
    reported (dataByte x 0) (dataByte x 1) (dataByte x 2) = states x := by
  have hall : DeviceEvent.all.filter (· != .credit) =
      stateBits.map (·.2) ++ faultBits.map (·.2) ++ [.cassetteRemoved]
        ++ conditionBits.map (·.2) := by decide
  rw [reported_eq_filter, ← hall, List.filter_filter, states]
  simp only [Bool.and_comm]

theorem nodup_states
    (x : List UInt8) :
    (states x).Nodup :=
  List.Nodup.sublist List.filter_sublist (by decide)

theorem filter_events_decode
    (c : Codec)
    (x : List UInt8) :
    (decode c x).events.filter (· != .credit) = states x := by
  have hstates : (states x).filter (· != .credit) = states x := by
    refine List.filter_eq_self.mpr fun e he => ?_
    exact (Bool.and_eq_true_iff.mp (List.mem_filter.mp he).2).1
  simp only [decode, reported_eq_states]
  split
  · rw [List.filter_append, hstates]
    exact List.append_nil _
  · exact hstates

end Reply

namespace World

/-- What tells a state of a reply apart on the console. -/
def keyOf (reply : Reply) (kind : DeviceEvent) : StateKey :=
  if kind = .escrowed then .escrow (shownName reply.billName).display else .device kind

theorem keyOf_injective
    (reply : Reply) :
    Function.Injective (keyOf reply) := by
  intro a b h
  unfold keyOf at h
  split at h <;> split at h <;> simp_all

theorem stateKey?_eventOf
    (reply : Reply)
    (kind : DeviceEvent) :
    (eventOf reply kind).stateKey? = if kind != .credit then some (keyOf reply kind) else none := by
  cases kind <;> rfl

/-- The keys of what a reply gives to tell are those of its states. -/
theorem filterMap_stateKey?_news
    {σ : Type}
    (d : Desk σ)
    (x : List UInt8) :
    (d.news x none).filterMap Event.stateKey? =
      (Reply.states x).map (keyOf (Reply.decode d.codec x)) := by
  rw [Desk.news, List.filterMap_map, ← Reply.filter_events_decode d.codec, ← List.filterMap_eq_map,
    List.filterMap_filter]
  exact congrArg (List.filterMap · (Reply.decode d.codec x).events)
    (funext (stateKey?_eventOf (Reply.decode d.codec x)))

/-! ## Two polls -/

variable {σ : Type} {peer : Peer σ} {who : Listener}

/-- A poll that reads a frame and takes no request tells what the frame says, and traffic. -/
theorem poll_tells
    (name : Value)
    {w : World (AnsweredLine σ) Audience}
    {x : List UInt8}
    (hw : (Vantage.courteous peer (some who) true).Orderly w)
    (hx : Frame.accepts x = true)
    (hrequest : w.courier.control.mailbox.take.1 = none)
    (hread : x ∈ (step (answeredPort name peer) .poll w).trace.replies peer w.port.party) :
    let r := step (answeredPort name peer) .poll w
    (∀ e ∈ r.trace.heardBy who.name, e.isTraffic = true ∨ e.isNews = true)
      ∧ (r.trace.heardBy who.name).filter Event.isNews = w.desk.news x none
      ∧ (Vantage.courteous peer (some who) true).Orderly r.state
      ∧ r.state.courier.codec.billNames = w.courier.codec.billNames := by
  intro r
  obtain ⟨acts, result, e, hcourse, hheard, hreplies, hcodec, horder⟩ :=
    exists_course_poll name hw
  have hframe : x ∈ Act.frames acts := List.mem_filter.mpr ⟨hreplies ▸ hread, hx⟩
  rw [hheard, hcodec]
  rw [hrequest] at hcourse
  obtain ⟨k, -, htakes⟩ := hcourse.takes hframe
  have hnews := htakes.filter_isNews rfl
  refine ⟨?_, hnews, horder, hcourse.billNames_eq⟩
  obtain ⟨front, d, rfl, htraffic, -, -, -⟩ := htakes
  intro y hy
  rw [Act.events_append, Vantage.events_flatMap_tell rfl, List.mem_append] at hy
  exact hy.imp (List.all_eq_true.mp htraffic y) Desk.isNews_of_mem_news

/-- What a listener may ask for between polls is not heard. -/
theorem reached_in_silence
    (name : Value)
    {ops : List Operation}
    {w : World (AnsweredLine σ) Audience}
    (hops : ∀ op ∈ ops, (Reaction.performs op).isCourteous true (some who) = true)
    (hw : (Vantage.courteous peer (some who) true).Orderly w) :
    (chronicle (answeredPort name peer) ops w).heardBy who.name = []
      ∧ (reached (answeredPort name peer) ops w).desk = w.desk
      ∧ (Vantage.courteous peer (some who) true).Orderly
          (reached (answeredPort name peer) ops w) := by
  have hquiet : ∀ op ∈ ops,
      Run.Follows (Vantage.hush peer (some who) true) (step (answeredPort name peer) op) :=
    fun op hop v => Vantage.hush_performNested _ _ op (hops op hop) v
  obtain ⟨⟨hacts, -, hdesk⟩, horder⟩ := holds_chronicle hquiet w hw
  refine ⟨?_, hdesk, horder⟩
  rw [Trace.heardBy_eq_events peer who.name _ w.port.party]
  exact congrArg Act.events hacts

/--
Two polls take no request and read the same frame, and between them nothing happens but what
a listener may ask for.  Whatever the names of the bills are and whatever a printer that shows
no traffic remembers before, it prints only credits in the second poll exactly when the frame
reports one state at most.  If it reports more, all that the frame gives to tell is printed
again.
-/
theorem repeated_reply_prints_credits_iff
    {w : World (AnsweredLine σ) Audience}
    {x : List UInt8}
    {p : EventPrinter}
    (name : Value)
    (ops : List Operation)
    (hwho : w.courier.listeners.Attends who)
    (hplans : w.audience.Plans (Reaction.isCourteous true (some who)))
    (hops : ∀ op ∈ ops, (Reaction.performs op).isCourteous true (some who) = true)
    (hx : Frame.accepts x = true)
    (hrequest : w.courier.control.mailbox.take.1 = none)
    (hread : x ∈ (step (answeredPort name peer) .poll w).trace.replies peer w.port.party)
    (hagain :
      let v := reached (answeredPort name peer) (.poll :: ops) w
      v.courier.control.mailbox.take.1 = none
        ∧ x ∈ (step (answeredPort name peer) .poll v).trace.replies peer v.port.party)
    (hquiet : p.showTraffic = false) :
    let port := answeredPort name peer
    let v := reached port (.poll :: ops) w
    let q := p.after ((chronicle port (.poll :: ops) w).heardBy who.name)
    let printed := q.lines ((step port .poll v).trace.heardBy who.name)
    ((∀ text ∈ printed, EventPrinter.IsCreditLine text) ↔ (Reply.states x).length ≤ 1)
      ∧ (1 < (Reply.states x).length → printed = (w.desk.news x none).map EventPrinter.line) := by
  intro port v q printed
  have hw : (Vantage.courteous peer (some who) true).Orderly w := by
    refine ⟨⟨?_, Or.inl rfl⟩, hplans⟩
    rintro l ⟨⟩
    exact hwho
  obtain ⟨hfirst, hnews, horder, hnames⟩ := poll_tells name hw hx hrequest hread
  obtain ⟨hsilent, hdesk, horder⟩ := reached_in_silence name hops horder
  obtain ⟨hsecond, hnewsAgain, -⟩ := poll_tells (w := v) name horder hx hagain.1 hagain.2
  have hsame : v.desk.news x none = w.desk.news x none :=
    Desk.news_congr ((congrArg (fun d => d.codec.billNames) hdesk).trans hnames) x none
  have hq : q = p.after (w.desk.news x none) := by
    change p.after _ = _
    rw [chronicle_cons, Trace.heardBy_append, hsilent, List.append_nil,
      (EventPrinter.filter_isNews_heard hquiet hfirst).2, hnews]
  have hkeys := filterMap_stateKey?_news w.desk x
  have hdistinct : ((w.desk.news x none).filterMap Event.stateKey?).Nodup := by
    rw [hkeys]
    exact (Reply.nodup_states x).map (keyOf_injective _)
  have hprinted : printed =
      if (Reply.states x).length ≤ 1 then
        ((w.desk.news x none).filter Event.isCredit).map EventPrinter.line
      else (w.desk.news x none).map EventPrinter.line := by
    have htold : printed = q.lines (v.desk.news x none) := by
      rw [← hnewsAgain]
      refine (EventPrinter.filter_isNews_heard ?_ hsecond).1
      rw [hq, EventPrinter.showTraffic_after, hquiet]
    rw [htold, hsame, hq, EventPrinter.lines_again (fun e => Desk.isNews_of_mem_news) hdistinct,
      hkeys, List.length_map]
  refine ⟨⟨fun hcredits => ?_, fun hfew text htext => ?_⟩, fun hmany => ?_⟩
  · -- Of several states there is a first, and its line is that of no credit.
    refine Nat.le_of_not_lt fun hmany => ?_
    rw [hprinted, if_neg (Nat.not_le.mpr hmany)] at hcredits
    obtain ⟨kind, hkind⟩ := List.exists_mem_of_length_pos (Nat.lt_of_succ_lt hmany)
    have hkey : keyOf (Reply.decode w.desk.codec x) kind ∈
        (w.desk.news x none).filterMap Event.stateKey? := by
      rw [hkeys]
      exact List.mem_map_of_mem hkind
    obtain ⟨e, he, hstate⟩ := List.mem_filterMap.mp hkey
    exact EventPrinter.not_isCreditLine_of_stateKey? hstate
      (hcredits _ (List.mem_map_of_mem he))
  · rw [hprinted, if_pos hfew] at htext
    obtain ⟨e, he, rfl⟩ := List.mem_map.mp htext
    exact EventPrinter.isCreditLine_of_isCredit (List.mem_filter.mp he).2
  · rw [hprinted, if_neg (Nat.not_le.mpr hmany)]

/-- A credited bill is printed in both of two polls, the state that goes with it in one. -/
theorem repeated_reply_prints_credits_stacked :
    let port := answeredPort .null (.steady Script.portResponder)
    let w : World (AnsweredLine Script) Audience :=
      unused ⟨[], .bytes stackedFrame⟩ [⟨⟨"rec", .null⟩, []⟩]
    let v := reached port [.poll, .pause true] w
    let q := (EventPrinter.fresh false).after
      ((chronicle port [.poll, .pause true] w).heardBy "rec")
    ∀ text ∈ q.lines ((step port .poll v).trace.heardBy "rec"), EventPrinter.IsCreditLine text := by
  intro port w v q
  have hplans : Audience.Plans (Reaction.isCourteous true (some ⟨"rec", .null⟩))
      [⟨⟨"rec", .null⟩, []⟩] := Audience.plans_planless _
  have hops : ∀ op ∈ [Operation.pause true],
      (Reaction.performs op).isCourteous true (some ⟨"rec", .null⟩) = true := by
    simp [Reaction.isCourteous, Operation.isAside, Operation.spares]
  obtain ⟨hcredits, -⟩ := @repeated_reply_prints_credits_iff Script (.steady Script.portResponder)
    ⟨"rec", .null⟩ (unused ⟨[], .bytes stackedFrame⟩ [⟨⟨"rec", .null⟩, []⟩]) stackedFrame
    (EventPrinter.fresh false) .null [.pause true] rfl hplans hops (by decide) rfl
    (by decide +kernel) (by decide +kernel) rfl
  exact hcredits.mpr (by decide)

/-- An idle acceptor without its cassette: two states, which are printed in both of two polls. -/
theorem repeated_states_print_again :
    let x : List UInt8 := Frame.encode Frame.replyType [0x01, 0x00, 0x00, 0x0D, 0x21, 0x00]
    let port := answeredPort .null (.steady Script.portResponder)
    let w : World (AnsweredLine Script) Audience :=
      unused ⟨[], .bytes x⟩ [⟨⟨"rec", .null⟩, []⟩]
    let first := step port .poll w
    let second := step port .poll first.state
    let q := (EventPrinter.fresh false).after (first.trace.heardBy "rec")
    Frame.accepts x = true
      ∧ first.trace.replies Script.portResponder w.port.party = [x]
      ∧ second.trace.replies Script.portResponder first.state.port.party = [x]
      ∧ q.lines (second.trace.heardBy "rec") = ["[EVENT] Idling", "[EVENT] CASSETTE REMOVED"]
      ∧ ¬ EventPrinter.IsCreditLine "[EVENT] Idling" := by
  decide +kernel

end World

end AcceptorHost
