import AcceptorHost.Proofs.DisturbedTicks

/-!
# Ticks that fail or read no frame

The record is written, and more than traffic told, only after the last call of an exchange
has succeeded and its reply has been found to be a frame.  So a tick that fails leaves the
record as it was but for the accounting, and so does a tick that reads bytes which form no
frame; and no tick tells more than one failure of the link.
-/

namespace AcceptorHost

/-- An event tells of bytes on the link. -/
def Event.isTraffic : Event → Bool
  | .traffic _ _ => true
  | _ => false

/-- An event tells of a failing link. -/
def Event.isAlarm : Event → Bool
  | .connectionFailure _ => true
  | _ => false

/-- The record with the accounting of another. -/
def Record.accountedAs (r other : Record) : Record :=
  { r with healthy := other.healthy, failures := other.failures }

namespace Act

/-- What is told in acts is traffic. -/
def TellTraffic (acts : List Act) : Prop := (events acts).all Event.isTraffic = true

/-- Bytes that are read in acts form no frame. -/
def ReadsNoFrame (acts : List Act) : Prop := ∃ x ∈ replies acts, Frame.accepts x = false

/-- The bytes that a call reads. -/
def readBy? : PortCall × Answer → Option (List UInt8)
  | (.receive _ _, .bytes x) => some x
  | _ => none

/-- What is read does not depend on when the port is closed. -/
theorem replies_eq_filterMap
    (acts : List Act) :
    replies acts = ((calls acts).filter fun x => x.1.keepsOpen).filterMap readBy? := by
  induction acts with
  | nil =>
      rfl
  | cons act rest ih =>
      cases act with
      | called c a =>
          cases c <;> cases a <;>
            simp_all [replies, reply?, readBy?, calls, call?, PortCall.keepsOpen,
              List.filterMap_cons]
      | _ =>
          exact ih

/-- What is told in acts is not of a failing link. -/
def Unalarmed (acts : List Act) : Prop := ∀ x ∈ events acts, x.isAlarm = false

theorem TellTraffic.unalarmed
    {acts : List Act}
    (h : TellTraffic acts) :
    Unalarmed acts := by
  intro x hx
  have htraffic := List.all_eq_true.mp h x hx
  cases x with
  | traffic direction text =>
      rfl
  | _ =>
      cases htraffic

theorem Unalarmed.append
    {a b : List Act}
    (ha : Unalarmed a)
    (hb : Unalarmed b) :
    Unalarmed (a ++ b) := by
  intro x hx
  rw [events_append, List.mem_append] at hx
  exact hx.elim (ha x) (hb x)

theorem Unalarmed.countP_eq
    {acts : List Act}
    (h : Unalarmed acts) :
    (events acts).countP Event.isAlarm = 0 := by
  rw [List.countP_eq_zero]
  intro x hx
  simp [h x hx]

end Act

namespace Vantage

variable {σ τ : Type} {V : Vantage σ τ} {d e : Desk σ} {acts : List Act}

@[simp] theorem all_isTraffic_tell
    (direction : Direction)
    (text : String) :
    (Act.events (V.tell (.traffic direction text))).all Event.isTraffic = true := by
  unfold tell
  split <;> rfl

theorem Collection.tellTraffic
    {result : Except Halt (List UInt8)}
    (h : V.Collection d acts result e) :
    Act.TellTraffic acts := by
  cases h <;> simp [Act.TellTraffic]

theorem Inquiry.tellTraffic
    {bytes : List UInt8}
    {result : Except Halt (List UInt8)}
    (h : V.Inquiry bytes d acts result e) :
    Act.TellTraffic acts := by
  cases h with
  | unsent h ha =>
      simp [Act.TellTraffic]
  | sent a ha hok hread =>
      have hrest := hread.tellTraffic
      unfold Act.TellTraffic at hrest ⊢
      simpa using hrest

theorem Inquiry.record_eq
    {bytes : List UInt8}
    {result : Except Halt (List UInt8)}
    (h : V.Inquiry bytes d acts result e) :
    e.record = d.record := by
  cases h with
  | unsent h ha =>
      rfl
  | sent a ha hok hread =>
      cases hread <;> rfl

/-- A frame that is read is all that is read. -/
theorem Collection.replies_of_accepts
    {x : List UInt8}
    (hx : Frame.accepts x = true)
    (h : V.Collection d acts (.ok x) e) :
    Act.replies acts = [x] := by
  cases h with
  | accepted x ha hx =>
      change x :: Act.replies (V.tell _) = [x]
      rw [replies_tell]
  | dropped y b ha hy hb hok =>
      cases hx

theorem Inquiry.replies_of_accepts
    {bytes x : List UInt8}
    (hx : Frame.accepts x = true)
    (h : V.Inquiry bytes d acts (.ok x) e) :
    Act.replies acts = [x] := by
  cases h with
  | sent a ha hok hread =>
      simpa [Act.replies_called] using hread.replies_of_accepts hx

/-- An exchange that fails or reads no frame learns nothing and tells of traffic alone. -/
theorem Service.unlearned
    {request : Option Request}
    {result : Except Halt Unit}
    (h : V.Service d request acts result e)
    (hsetback : result ≠ .ok () ∨ Act.ReadsNoFrame acts) :
    e.record = d.record ∧ Act.TellTraffic acts := by
  cases h with
  | failed h hrequest hask =>
      exact ⟨hask.record_eq, hask.tellTraffic⟩
  | dropped hrequest hask =>
      exact ⟨hask.record_eq, hask.tellTraffic⟩
  | answered x hrequest hx hask =>
      obtain ⟨y, hy, hrejected⟩ := hsetback.resolve_left (fun h => h rfl)
      rw [Act.replies_append, replies_flatMap_tell, List.append_nil, hask.replies_of_accepts hx,
        List.mem_singleton] at hy
      rw [hy, hx] at hrejected
      cases hrejected
  | resetUnsent bytes h hbytes ha =>
      exact ⟨rfl, by simp [Act.TellTraffic]⟩
  | resetUnclosed bytes a h hbytes ha hok hb =>
      exact ⟨rfl, by simp [Act.TellTraffic]⟩
  | resetRested bytes a b c k hbytes ha hok hb hokb he hc =>
      subst he
      exact ⟨rfl, by simp [Act.TellTraffic]⟩

theorem Opened.unlearned
    {request : Option Request}
    {result : Except Halt Unit}
    (h : V.Opened d request acts result e)
    (hsetback : result ≠ .ok () ∨ Act.ReadsNoFrame acts) :
    e.record = d.record ∧ Act.TellTraffic acts := by
  cases h with
  | ready hopen hserve =>
      exact hserve.unlearned hsetback
  | refused h hopen ha =>
      exact ⟨rfl, rfl⟩
  | opened a hopen ha hok hserve =>
      exact hserve.unlearned hsetback

/-- A failure that is accounted for gives one event to tell, or none. -/
theorem events_alarmActs
    (d : Desk σ) :
    Act.events (V.alarmActs d) = []
      ∨ Act.events (V.alarmActs d) = [.connectionFailure d.record.failures] := by
  unfold alarmActs Desk.alarm
  cases Policy.reached d.policy.retryLimit d.record.failures with
  | error f =>
      exact Or.inl rfl
  | ok reached =>
      cases reached with
      | false =>
          exact Or.inl rfl
      | true =>
          cases hwatch : V.watch with
          | none =>
              exact Or.inl (by simp [Except.map, tell, hwatch])
          | some n =>
              exact Or.inr (by simp [Except.map, events_tell hwatch])

theorem isAlarm_of_mem_alarmActs
    {d : Desk σ}
    {x : Event}
    (hx : x ∈ Act.events (V.alarmActs d)) :
    x.isAlarm = true := by
  rcases events_alarmActs (V := V) d with hnone | hone
  · rw [hnone] at hx
    cases hx
  · rw [hone] at hx
    cases List.mem_singleton.mp hx
    rfl

/-- A tick that fails or reads no frame changes nothing but the accounting, and tells of
traffic and, if it fails, of the failing link. -/
theorem Course.unlearned
    {request : Option Request}
    {result : Except Halt Unit}
    (h : V.Course d request acts result e)
    (hsetback : result ≠ .ok () ∨ e.record.healthy = false ∨ Act.ReadsNoFrame acts) :
    e.record = d.record.accountedAs e.record
      ∧ ∀ x ∈ Act.events acts,
        x.isTraffic = true ∨ e.record.healthy = false ∧ x.isAlarm = true := by
  have htraffic {told : List Act} (htold : Act.TellTraffic told) :
      ∀ x ∈ Act.events told, x.isTraffic = true := List.all_eq_true.mp htold
  cases h with
  | @completed acts k hserve =>
      have hrejected : Act.ReadsNoFrame acts := by
        rcases hsetback with hhalt | hunhealthy | hrejected
        · exact absurd rfl hhalt
        · cases hunhealthy
        · exact hrejected
      obtain ⟨hrecord, htold⟩ := hserve.unlearned (Or.inr hrejected)
      refine ⟨?_, fun x hx => Or.inl (htraffic htold x hx)⟩
      simp [Desk.accounted, Record.accountedAs, hrecord]
  | @missed acts k f hup hserve =>
      obtain ⟨hrecord, htold⟩ := hserve.unlearned (Or.inl (by simp))
      refine ⟨by simp [Desk.accounted, Record.accountedAs, hrecord], ?_⟩
      intro x hx
      rw [Act.events_append, List.mem_append] at hx
      exact hx.imp (htraffic htold x) fun h => ⟨rfl, isAlarm_of_mem_alarmActs h⟩
  | @severed acts k text a hserve ha hok =>
      obtain ⟨hrecord, htold⟩ := hserve.unlearned (Or.inl (by simp))
      refine ⟨?_, ?_⟩
      · have hlast : (k.after V.peer .disconnect).record = d.record := hrecord
        simp [Desk.accounted, Record.accountedAs, hlast]
      · intro x hx
        rw [Act.events_append, Act.events_called, List.mem_append] at hx
        exact hx.imp (htraffic htold x) fun h => ⟨rfl, isAlarm_of_mem_alarmActs h⟩
  | @escaped acts k text h hserve ha =>
      obtain ⟨hrecord, htold⟩ := hserve.unlearned (Or.inl (by simp))
      have hlast : (k.after V.peer .disconnect).record = d.record := hrecord
      refine ⟨by rw [hlast]; rfl, ?_⟩
      intro x hx
      rw [Act.events_append, Act.events_called, Act.events_nil, List.append_nil] at hx
      exact Or.inl (htraffic htold x hx)
  | exited status hserve =>
      obtain ⟨hrecord, htold⟩ := hserve.unlearned (Or.inl (by simp))
      exact ⟨by rw [hrecord]; rfl, fun x hx => Or.inl (htraffic htold x hx)⟩

/-- What an exchange learns is told without a word of the link. -/
theorem unalarmed_news
    (d : Desk σ)
    (x : List UInt8)
    (request : Option Request) :
    Act.Unalarmed ((d.news x request).flatMap V.tell) := by
  intro y hy
  have hnews : y ∈ d.news x request := by
    cases hwatch : V.watch with
    | none =>
        have hnone : (d.news x request).flatMap V.tell = [] := by simp [tell, hwatch]
        rw [hnone] at hy
        cases hy
    | some n =>
        rwa [events_flatMap_tell hwatch] at hy
  cases request with
  | none =>
      obtain ⟨kind, -, rfl⟩ := List.mem_map.mp hnews
      cases kind <;> rfl
  | some r =>
      cases hnews

/-- An exchange tells nothing of a failing link. -/
theorem Service.unalarmed
    {request : Option Request}
    {result : Except Halt Unit}
    (h : V.Service d request acts result e) :
    Act.Unalarmed acts := by
  cases h with
  | failed h hrequest hask =>
      exact hask.tellTraffic.unalarmed
  | dropped hrequest hask =>
      exact hask.tellTraffic.unalarmed
  | answered x hrequest hx hask =>
      exact hask.tellTraffic.unalarmed.append (unalarmed_news _ x request)
  | resetUnsent bytes h hbytes ha =>
      exact Act.TellTraffic.unalarmed (by simp [Act.TellTraffic])
  | resetUnclosed bytes a h hbytes ha hok hb =>
      exact Act.TellTraffic.unalarmed (by simp [Act.TellTraffic])
  | resetRested bytes a b c e hbytes ha hok hb hokb he hc =>
      exact Act.TellTraffic.unalarmed (by simp [Act.TellTraffic])

theorem Opened.unalarmed
    {request : Option Request}
    {result : Except Halt Unit}
    (h : V.Opened d request acts result e) :
    Act.Unalarmed acts := by
  cases h with
  | ready hopen hserve =>
      exact hserve.unalarmed
  | refused h hopen ha =>
      intro x hx
      cases hx
  | opened a hopen ha hok hserve =>
      exact hserve.unalarmed

/-- A tick tells of a failing link once at most. -/
theorem Course.countP_isAlarm_le
    {request : Option Request}
    {result : Except Halt Unit}
    (h : V.Course d request acts result e) :
    (Act.events acts).countP Event.isAlarm ≤ 1 := by
  have halarm (k : Desk σ) : (Act.events (V.alarmActs k)).countP Event.isAlarm ≤ 1 := by
    rcases events_alarmActs (V := V) k with hnone | hone
    · simp [hnone]
    · simp [hone, Event.isAlarm]
  cases h with
  | completed hserve =>
      exact Nat.le_trans (Nat.le_of_eq hserve.unalarmed.countP_eq) (Nat.zero_le 1)
  | missed f hup hserve =>
      rw [Act.events_append, List.countP_append, hserve.unalarmed.countP_eq, Nat.zero_add]
      exact halarm _
  | severed text a hserve ha hok =>
      rw [Act.events_append, List.countP_append, hserve.unalarmed.countP_eq, Nat.zero_add]
      exact halarm _
  | escaped text h hserve ha =>
      rw [Act.events_append, List.countP_append, hserve.unalarmed.countP_eq]
      exact Nat.zero_le 1
  | exited status hserve =>
      exact Nat.le_trans (Nat.le_of_eq hserve.unalarmed.countP_eq) (Nat.zero_le 1)

end Vantage

namespace World

variable {σ : Type} {peer : Peer σ} {own : Event → Bool} {who : Option Listener}

/-- What is read in a trace is what is read in the acts that it shows. -/
theorem replies_of_shows
    {t : Trace}
    {s : σ}
    {acts : List Act}
    (h : t.Shows peer own who s acts) :
    t.replies peer s = Act.replies acts := by
  unfold Trace.replies
  rw [Act.replies_eq_filterMap, Act.replies_eq_filterMap acts]
  exact congrArg _ h.calls_eq

/-- A tick that fails, or reads bytes that form no frame, learns nothing: the record stays as
it is but for the accounting, and listeners hear of traffic and, once at most and only if it
fails, of the failing link, apart from what they dispatch themselves. -/
theorem setback_learns_nothing
    {w : World (AnsweredLine σ) Audience}
    (name : Value)
    (depth : Nat)
    (hplans : w.audience.Plans (Reaction.isPatient own who))
    (hwho : ∀ l, who = some l → w.courier.listeners.Attends l) :
    let port := answeredPort name peer
    let r := tick port (hear (performNested port depth)) w
    let failed := r.result ≠ .ok () ∨ r.state.courier.record.healthy = false
    (failed ∨ ∃ x ∈ r.trace.replies peer w.port.party, Frame.accepts x = false) →
      r.state.courier.record = w.courier.record.accountedAs r.state.courier.record
        ∧ (∀ l e, .heard l e ∈ r.trace →
          own e = true ∨ e.isTraffic = true ∨ failed ∧ e.isAlarm = true)
        ∧ ∀ l, who = some l →
          ((r.trace.heardBy l.name).filter fun e => !own e).countP Event.isAlarm ≤ 1 := by
  intro port r failed hsetback
  obtain ⟨answers, acts, e, hcourse, -, hrecord, -, hshows, -⟩ :=
    exists_course_tick name (placid_hear name depth) ⟨hwho, hplans⟩
  have hreplies : r.trace.replies peer w.port.party = Act.replies acts :=
    replies_of_shows hshows
  have hfailed : failed ↔ r.result ≠ .ok () ∨ e.record.healthy = false := by
    rw [← hrecord]
  rw [hreplies, hfailed, or_assoc] at hsetback
  have hunlearned := hcourse.unlearned hsetback
  refine ⟨by rw [hrecord]; exact hunlearned.1, fun l x hx => ?_, fun l hl => ?_⟩
  · refine (hshows.heard_told l x hx).imp_right fun htold => ?_
    have hevent : x ∈ Act.events acts := List.mem_filterMap.mpr ⟨_, htold, rfl⟩
    refine (hunlearned.2 x hevent).imp_right fun h => ⟨Or.inr ?_, h.2⟩
    rw [hrecord]
    exact h.1
  · rw [hshows.heardBy_eq l hl]
    exact Nat.le_trans (List.filter_sublist.countP_le) hcourse.countP_isAlarm_le

/-- A tick without a reply leaves what is known of the acceptor as it is. -/
theorem setback_learns_nothing_unused :
    let port := answeredPort .null (.steady Responder.ofOutcomes)
    let w := unused [.ok [], .ok [], .error (.noReply "late")] [⟨⟨"rec", .null⟩, []⟩]
    let r := tick port (hear (performNested port 0)) w
    r.state.courier.record.healthy = false
      ∧ r.state.courier.record = w.courier.record.accountedAs r.state.courier.record
      ∧ ((r.trace.heardBy "rec").filter fun _ => true).countP Event.isAlarm ≤ 1 := by
  have hplans : Audience.Plans (Reaction.isPatient (fun _ => false) (some ⟨"rec", .null⟩))
      [⟨⟨"rec", .null⟩, []⟩] := Audience.plans_planless _
  have hlearned := @setback_learns_nothing _ (.steady Responder.ofOutcomes) _ _
    (unused [.ok [], .ok [], .error (.noReply "late")] [⟨⟨"rec", .null⟩, []⟩])
    .null 0 hplans (by rintro l ⟨⟩; rfl) (Or.inl (Or.inr rfl))
  exact ⟨rfl, hlearned.1, hlearned.2.2 _ rfl⟩

end World

end AcceptorHost
