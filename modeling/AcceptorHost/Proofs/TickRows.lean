import AcceptorHost.Proofs.DisturbedTicks
import AcceptorHost.Proofs.Plans

/-!
# Rows of ticks among patient listeners

A row of operations is a row of ticks with what happens aside between them (`Row`).  If
listeners are tame, an operation that comes to no tick is done aside, and one that comes to
a tick is the tick with its follow-up, which is done aside.
-/

namespace AcceptorHost

namespace World

/-! ## Operations -/

section Operations

variable {σ : Type} {peer : Peer σ} {own : Event → Bool} {who : Option Listener}
  (name : Value)

/-- Tame listeners are patient, if they may tell anything and nobody is watched. -/
theorem patient_of_tame
    {w : World (AnsweredLine σ) Audience}
    (hw : w.audience.Plans Reaction.isTame) :
    Patient (fun _ => true) none w := by
  refine ⟨by rintro l ⟨⟩, hw.mono fun r hr => ?_⟩
  cases r with
  | halts h =>
      simpa [Reaction.isPatient, Reaction.minds] using hr
  | performs op =>
      cases op <;> simp_all [Reaction.isPatient, Reaction.minds]

/-- An operation that comes to no tick is done aside among patient listeners. -/
theorem patience_step
    {op : Operation}
    {w : World (AnsweredLine σ) Audience}
    (hticks : op.ticks w.courier = false)
    (hminds : (Reaction.performs op).minds own who = true)
    (hw : Patient own who w) :
    (Passage.aside peer own).holds w (step (answeredPort name peer) op w).trace
        (step (answeredPort name peer) op w).state
      ∧ Patient own who (step (answeredPort name peer) op w).state := by
  have hpatient (hop : (Reaction.performs op).isPatient own who = true) :
      Run.Follows (.patience peer own who)
        (performNested (answeredPort name peer) (w.audience.depth + 1) op) :=
    patience_performNested name (w.audience.depth + 1) op hop
  cases op with
  | poll =>
      cases hticks
  | pass =>
      let port := answeredPort name peer
      have hpass : step port .pass w = (idlePass port >>= fun _ => Run.give Value.null) w :=
        Run.bind_congr (pass_of_idle hticks) _
      rw [hpass]
      exact (patience_concludes name).idlePass.bind (fun _ => Run.Follows.give _) w hw
  | _ =>
      exact hpatient hminds w hw

/-- An operation that comes to no tick is done aside by tame listeners. -/
theorem aside_step
    {op : Operation}
    {w : World (AnsweredLine σ) Audience}
    (hticks : op.ticks w.courier = false)
    (hw : w.audience.Plans Reaction.isTame) :
    (Passage.aside peer fun _ => true).holds w
      (step (answeredPort name peer) op w).trace
      (step (answeredPort name peer) op w).state := by
  have hminds : (Reaction.performs op).minds (fun _ => true) none = true := by
    cases op <;> rfl
  exact (patience_step name hticks hminds (patient_of_tame hw)).1

theorem aside_tickStart
    (op : Operation)
    {w : World (AnsweredLine σ) Audience}
    (hw : w.audience.Plans Reaction.isTame) :
    (Passage.aside peer fun _ => true).holds w [] (tickStart op w) := by
  cases op with
  | pass =>
      exact (patience_control (fun c => { c with thread := .running }) w (patient_of_tame hw)).1
  | _ =>
      exact (Passage.aside peer _).stay w

/-- After a tick among patient listeners they are patient still. -/
theorem patient_tick
    {w : World (AnsweredLine σ) Audience}
    (hw : Patient own who w) :
    Patient own who (tickAmong (answeredPort name peer) w).state := by
  obtain ⟨-, -, -, -, -, -, -, -, hafter⟩ :=
    exists_course_tick name (placid_hear name w.audience.depth) hw
  exact hafter

end Operations

/-! ## Rows -/

section Rows

variable {σ : Type} (name : Value) (peer : Peer σ)

/-- A row of ticks with what tame listeners do aside before, between and after them. -/
inductive Row :
    World (AnsweredLine σ) Audience → List (World (AnsweredLine σ) Audience) → Trace →
      World (AnsweredLine σ) Audience → Prop
  | last
      {w v : World (AnsweredLine σ) Audience}
      {t : Trace}
      (haside : (Passage.aside peer fun _ => true).holds w t v) :
      Row w [] t v
  | tick
      {w v u : World (AnsweredLine σ) Audience}
      {starts : List (World (AnsweredLine σ) Audience)}
      {s t : Trace}
      (haside : (Passage.aside peer fun _ => true).holds w s v)
      (htame : v.audience.Plans Reaction.isTame)
      (hrest : Row (tickAmong (answeredPort name peer) v).state starts t u) :
      Row w (v :: starts) (s ++ ((tickAmong (answeredPort name peer) v).trace ++ t)) u

variable {name peer}

theorem Row.before
    {w v u : World (AnsweredLine σ) Audience}
    {starts : List (World (AnsweredLine σ) Audience)}
    {s t : Trace}
    (haside : (Passage.aside peer fun _ => true).holds w s v)
    (h : Row name peer v starts t u) :
    Row name peer w starts (s ++ t) u := by
  cases h with
  | last hrest =>
      exact .last ((Passage.aside peer _).onward haside hrest)
  | tick hnext htame hrest =>
      rw [← List.append_assoc]
      exact .tick ((Passage.aside peer _).onward haside hnext) htame hrest

/-- A row of more ticks after some is a row of some ticks and a row of the others. -/
theorem Row.split
    {w u : World (AnsweredLine σ) Audience}
    {before after : List (World (AnsweredLine σ) Audience)}
    {t : Trace}
    (h : Row name peer w (before ++ after) t u) :
    ∃ v s s', Row name peer w before s v ∧ Row name peer v after s' u := by
  induction before generalizing w t with
  | nil =>
      exact ⟨w, [], t, .last ((Passage.aside peer _).stay w), h⟩
  | cons first more ih =>
      cases h with
      | tick haside htame hrest =>
          obtain ⟨v, s, s', hmore, hafter⟩ := ih hrest
          exact ⟨v, _, s', .tick haside htame hmore, hafter⟩

variable (name peer) in
/-- Operations among tame listeners are a row of their ticks. -/
theorem row_of_operations :
    ∀ (ops : List Operation) {w : World (AnsweredLine σ) Audience},
      w.audience.Plans Reaction.isTame →
        Row name peer w (tickStarts (answeredPort name peer) ops w)
          (chronicle (answeredPort name peer) ops w)
          (reached (answeredPort name peer) ops w)
  | [], w, _ => .last ((Passage.aside peer _).stay w)
  | op :: rest, w, hw => by
      let port := answeredPort name peer
      have hrest := row_of_operations rest (plans_step port op hw)
      rw [chronicle_cons]
      unfold tickStarts reached
      cases hticks : op.ticks w.courier with
      | false =>
          exact .before (aside_step name hticks hw) hrest
      | true =>
          have hstart : (Passage.aside peer fun _ => true).holds w [] (tickStart op w) :=
            aside_tickStart op hw
          have htame : (tickStart op w).audience.Plans Reaction.isTame := by
            rw [tickStart_audience]
            exact hw
          let r := tickAmong port (tickStart op w)
          have hfollow : (Passage.aside peer fun _ => true).holds r.state
              (followUp port op r.result r.state).trace (followUp port op r.result r.state).state :=
            ((patience_concludes name).followUp op r.result r.state
              (patient_tick name (patient_of_tame htame))).1
          have hstep : step port op w = _ := step_of_tick hticks
          have hattempt : (Run.attempt (tickAmong port) (tickStart op w)).result =
              .ok r.result := rfl
          rw [Run.bind_of_ok hattempt] at hstep
          rw [hstep] at hrest ⊢
          rw [List.append_assoc]
          exact .tick hstart htame (hrest.before hfollow)

end Rows

end World

end AcceptorHost
