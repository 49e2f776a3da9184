import AcceptorHost.Proofs.Setbacks
import AcceptorHost.Proofs.TickRows

/-!
# Failures in a row

A tick that completes its exchange clears the count of failures, and one that fails adds
one to it.  From the retry limit on, and at the first failure at the earliest, a failing
tick ends with telling its count; nothing else tells of a failing link.  A tick that reads
a frame, or drops bytes that form none, is completed.
-/

namespace AcceptorHost

theorem Policy.reached_of_integer
    {v : Value}
    {limit : Int}
    (hv : v.integer? = some limit)
    (count : Nat) :
    Policy.reached v count = .ok (decide (limit ≤ count)) := by
  cases v with
  | int n =>
      cases hv
      rfl
  | bool b =>
      cases hv
      rfl
  | _ =>
      cases hv

/-- A call reads a frame, or drops what waits behind bytes that form none. -/
def PortCall.isAnswered : PortCall × Answer → Bool
  | (.receive _ _, .bytes x) => Frame.accepts x
  | (.discard, a) => a.failure?.isNone
  | _ => false

/-- A reply is read in a trace that is a frame, or that is none and can be dropped. -/
def Trace.isAnswered {σ : Type} (peer : Peer σ) (t : Trace) (s : σ) : Bool :=
  (t.calls peer s).any PortCall.isAnswered

/-- What a failing tick tells at a count of failures in a row. -/
def alarmAt (limit : Int) (count : Nat) : List Event :=
  if max 1 limit ≤ count then [.connectionFailure count] else []

theorem isAlarm_of_mem_alarmAt
    {limit : Int}
    {count : Nat}
    {e : Event}
    (he : e ∈ alarmAt limit count) :
    e.isAlarm = true := by
  unfold alarmAt at he
  split at he
  · rw [List.mem_singleton.mp he]
    rfl
  · cases he

/-- A trace tells of a failing link at most what is due at a count of failures in a row, and
tells it last to a watched listener. -/
structure Trace.Alerts (own : Event → Bool) (who : Option Listener) (limit : Int) (count : Nat)
    (t : Trace) : Prop where
  heard : ∀ l n, .heard l (.connectionFailure n) ∈ t → .connectionFailure n ∈ alarmAt limit count
  heardBy_eq : ∀ l, who = some l → ∃ told : List Event,
    (∀ e ∈ told, e.isAlarm = false) ∧
      (t.heardBy l.name).filter (fun e => !own e) = told ++ alarmAt limit count

namespace Vantage

variable {σ τ : Type} {V : Vantage σ τ} {d e : Desk σ} {acts : List Act}

/-! ## Exchanges that are answered -/

theorem Collection.not_answered
    {h : Halt}
    (hread : V.Collection d acts (.error h) e) :
    (Act.calls acts).any PortCall.isAnswered = false := by
  cases hread with
  | failed h ha =>
      rfl
  | blank ha =>
      rfl
  | stuck x h ha hx hb =>
      simp [Desk.reading, PortCall.isAnswered, hx]

theorem Inquiry.not_answered
    {bytes : List UInt8}
    {h : Halt}
    (hask : V.Inquiry bytes d acts (.error h) e) :
    (Act.calls acts).any PortCall.isAnswered = false := by
  cases hask with
  | unsent h ha =>
      simp [PortCall.isAnswered]
  | sent a ha hok hread =>
      simpa [PortCall.isAnswered] using hread.not_answered

/-- An exchange that fails is not answered. -/
theorem Service.not_answered
    {request : Option Request}
    {result : Except Halt Unit}
    (hserve : V.Service d request acts result e)
    (hfailed : result ≠ .ok ()) :
    (Act.calls acts).any PortCall.isAnswered = false := by
  cases hserve with
  | failed h hrequest hask =>
      exact hask.not_answered
  | dropped hrequest hask =>
      exact absurd rfl hfailed
  | answered x hrequest hx hask =>
      exact absurd rfl hfailed
  | resetUnsent bytes h hbytes ha =>
      simp [PortCall.isAnswered]
  | resetUnclosed bytes a h hbytes ha hok hb =>
      simp [PortCall.isAnswered]
  | resetRested bytes a b c k hbytes ha hok hb hokb he hc =>
      simp [PortCall.isAnswered]

theorem Opened.not_answered
    {request : Option Request}
    {result : Except Halt Unit}
    (hserve : V.Opened d request acts result e)
    (hfailed : result ≠ .ok ()) :
    (Act.calls acts).any PortCall.isAnswered = false := by
  cases hserve with
  | ready hopen hserve =>
      exact hserve.not_answered hfailed
  | refused h hopen ha =>
      rfl
  | opened a hopen ha hok hserve =>
      simpa [PortCall.isAnswered] using hserve.not_answered hfailed

/-- A tick whose reply is read, or dropped as no frame, is completed. -/
theorem Course.healthy_of_answered
    {request : Option Request}
    {result : Except Halt Unit}
    (h : V.Course d request acts result e)
    (hanswered : (Act.calls acts).any PortCall.isAnswered = true) :
    e.record.healthy = true := by
  cases h with
  | completed hserve =>
      rfl
  | missed f hup hserve =>
      simp [hserve.not_answered (by simp)] at hanswered
  | severed text a hserve ha hok =>
      simp [hserve.not_answered (by simp), PortCall.isAnswered] at hanswered
  | escaped text h hserve ha =>
      simp [hserve.not_answered (by simp), PortCall.isAnswered] at hanswered
  | exited status hserve =>
      simp [hserve.not_answered (by simp)] at hanswered

/-! ## What a tick tells of the link -/

theorem Course.policy_eq
    {request : Option Request}
    {result : Except Halt Unit}
    (h : V.Course d request acts result e) :
    e.policy = d.policy := by
  cases h with
  | completed hserve =>
      exact congrArg Standing.policy hserve.standing_eq
  | missed f hup hserve =>
      exact congrArg Standing.policy hserve.standing_eq
  | severed text a hserve ha hok =>
      exact congrArg Standing.policy hserve.standing_eq
  | escaped text h hserve ha =>
      exact congrArg Standing.policy hserve.standing_eq
  | exited status hserve =>
      exact congrArg Standing.policy hserve.standing_eq

/-- A failure that is accounted for tells what is due at its count. -/
theorem events_alarmActs_of_integer
    {n : String}
    {limit : Int}
    (hwatch : V.watch = some n)
    (hlimit : d.policy.retryLimit.integer? = some limit)
    (hpositive : 1 ≤ d.record.failures) :
    Act.events (V.alarmActs d) = alarmAt limit d.record.failures := by
  have hdue : (max 1 limit ≤ (d.record.failures : Int)) ↔ limit ≤ d.record.failures := by omega
  unfold alarmActs Desk.alarm alarmAt
  rw [Policy.reached_of_integer hlimit]
  by_cases hreached : limit ≤ d.record.failures
  · simp [Except.map, hdue, hreached, events_tell hwatch]
  · simp [Except.map, hdue, hreached]

/-- A tick that returns has cleared the count and told nothing of the link, or has added one
to the count and told what is due. -/
theorem Course.settles
    {n : String}
    {limit : Int}
    {request : Option Request}
    (hwatch : V.watch = some n)
    (hlimit : d.policy.retryLimit.integer? = some limit)
    (h : V.Course d request acts (.ok ()) e) :
    e.record.healthy = true ∧ e.record.failures = 0 ∧ Act.Unalarmed acts
      ∨ e.record.healthy = false ∧ e.record.failures = d.record.failures + 1 ∧
        ∃ told, Act.Unalarmed told ∧
          Act.events acts = Act.events told ++ alarmAt limit (d.record.failures + 1) := by
  generalize hresult : (Except.ok () : Except Halt Unit) = result at h
  have hcounted (k : Desk σ) (hk : k.standing = d.standing) :
      k.record.failures = d.record.failures ∧
        Act.events (V.alarmActs (k.accounted false)) = alarmAt limit (d.record.failures + 1) := by
    have hpolicy : k.policy = d.policy := congrArg Standing.policy hk
    have hcount : k.record.failures = d.record.failures := congrArg Standing.failures hk
    refine ⟨hcount, ?_⟩
    rw [← hcount]
    exact events_alarmActs_of_integer hwatch (by rw [← hlimit, ← hpolicy]; rfl)
      (Nat.le_add_left 1 _)
  cases h with
  | completed hserve =>
      exact Or.inl ⟨rfl, rfl, hserve.unalarmed⟩
  | @missed told k f hup hserve =>
      obtain ⟨hcount, halarm⟩ := hcounted k hserve.standing_eq
      refine Or.inr ⟨rfl, congrArg (· + 1) hcount, told, hserve.unalarmed, ?_⟩
      rw [Act.events_append, halarm]
  | @severed told k text a hserve ha hok =>
      obtain ⟨hcount, halarm⟩ :=
        hcounted (k.after V.peer .disconnect) hserve.standing_eq
      refine Or.inr ⟨rfl, congrArg (· + 1) hcount, told, hserve.unalarmed, ?_⟩
      rw [Act.events_append, Act.events_called, halarm]
  | escaped text h hserve ha =>
      cases hresult
  | exited status hserve =>
      cases hresult

end Vantage

namespace World

variable {σ : Type} {peer : Peer σ} {own : Event → Bool} {who : Option Listener}
  {limit : Int} (name : Value)

theorem isAnswered_of_shows
    {t : Trace}
    {s : σ}
    {acts : List Act}
    (h : t.Shows peer own who s acts) :
    t.isAnswered peer s = (Act.calls acts).any PortCall.isAnswered := by
  have hkept (calls : List (PortCall × Answer)) :
      calls.any PortCall.isAnswered =
        (calls.filter fun x => x.1.keepsOpen).any PortCall.isAnswered := by
    rw [List.any_filter]
    congr 1
    funext x
    obtain ⟨c, a⟩ := x
    cases c <;> rfl
  unfold Trace.isAnswered
  rw [hkept, h.calls_eq, ← hkept]

/-- How a tick that returns leaves the link, and what it tells of it. -/
inductive Settles (own : Event → Bool) (who : Option Listener) (limit : Int)
    (w : World (AnsweredLine σ) Audience) (r : Report (World (AnsweredLine σ) Audience) Unit) :
    Prop
  | cleared
      (hhealthy : r.state.courier.record.healthy = true)
      (hcount : r.state.courier.record.failures = 0)
      (hquiet : ∀ l e, .heard l e ∈ r.trace → e.isAlarm = false)
  | counted
      (hhealthy : r.state.courier.record.healthy = false)
      (hcount : r.state.courier.record.failures = w.courier.record.failures + 1)
      (halerts : r.trace.Alerts own who limit (w.courier.record.failures + 1))

namespace Settles

variable {w : World (AnsweredLine σ) Audience}
  {r : Report (World (AnsweredLine σ) Audience) Unit}

theorem healthy_iff
    (h : Settles own who limit w r) :
    r.state.courier.record.healthy = true ↔ r.state.courier.record.failures = 0 := by
  cases h with
  | cleared hhealthy hcount hquiet =>
      simp [hhealthy, hcount]
  | counted hhealthy hcount halerts =>
      simp [hhealthy, hcount]

theorem quiet_of_healthy
    (h : Settles own who limit w r)
    (hhealthy : r.state.courier.record.healthy = true) :
    ∀ l e, .heard l e ∈ r.trace → e.isAlarm = false := by
  cases h with
  | cleared _ hcount hquiet =>
      exact hquiet
  | counted hfailed hcount halerts =>
      rw [hfailed] at hhealthy
      cases hhealthy

theorem counted_of_failed
    (h : Settles own who limit w r)
    (hfailed : r.state.courier.record.healthy = false) :
    r.state.courier.record.failures = w.courier.record.failures + 1
      ∧ r.trace.Alerts own who limit (w.courier.record.failures + 1) := by
  cases h with
  | cleared hhealthy hcount hquiet =>
      rw [hhealthy] at hfailed
      cases hfailed
  | counted _ hcount halerts =>
      exact ⟨hcount, halerts⟩

end Settles

theorem settles_tick
    {w : World (AnsweredLine σ) Audience}
    (hown : ∀ e, own e = true → e.isAlarm = false)
    (hlimit : w.courier.policy.retryLimit.integer? = some limit)
    (hw : Patient own who w)
    (hok : (tickAmong (answeredPort name peer) w).result = .ok ()) :
    Settles own who limit w (tickAmong (answeredPort name peer) w) := by
  generalize hr : tickAmong (answeredPort name peer) w = r at hok ⊢
  obtain ⟨answers, acts, e, hcourse, -, hrecord, -, hshows, -⟩ :=
    exists_course_tick name (placid_hear name w.audience.depth) hw
  change Vantage.echo.Course _ _ acts (tickAmong (answeredPort name peer) w).result e at hcourse
  change (tickAmong (answeredPort name peer) w).state.courier.record = _ at hrecord
  change (tickAmong (answeredPort name peer) w).trace.Shows peer own who _ acts at hshows
  rw [hr] at hcourse hrecord hshows
  rw [hok] at hcourse
  have hheard (l : String) (x : Event) (hx : .heard l x ∈ r.trace) (halarm : x.isAlarm = true) :
      x ∈ Act.events acts := by
    rcases hshows.heard_told l x hx with hmine | htold
    · rw [hown x hmine] at halarm
      cases halarm
    · exact List.mem_filterMap.mpr ⟨_, htold, rfl⟩
  rcases hcourse.settles rfl hlimit with ⟨hhealthy, hcount, hquiet⟩ |
    ⟨hhealthy, hcount, told, hquiet, hevents⟩
  · refine .cleared (by rw [hrecord, hhealthy]) (by rw [hrecord, hcount]) fun l x hx => ?_
    rw [Bool.eq_false_iff]
    intro halarm
    rw [hquiet x (hheard l x hx halarm)] at halarm
    cases halarm
  · change Act.events acts = Act.events told ++ alarmAt limit (w.courier.record.failures + 1)
      at hevents
    refine .counted (by rw [hrecord, hhealthy]) (by rw [hrecord, hcount]; rfl)
      ⟨fun l n hn => ?_, fun l hl => ?_⟩
    · have htold := hheard l _ hn rfl
      rw [hevents, List.mem_append] at htold
      refine htold.resolve_left fun hfirst => ?_
      cases hquiet _ hfirst
    · refine ⟨(Act.events told).filter fun x => !own x, fun x hx => ?_, ?_⟩
      · exact hquiet x (List.mem_filter.mp hx).1
      · rw [hshows.heardBy_eq l hl, hevents, List.filter_append]
        congr 1
        rw [List.filter_eq_self]
        intro x hx
        cases hmine : own x with
        | false =>
            rfl
        | true =>
            have halarm := isAlarm_of_mem_alarmAt hx
            rw [hown x hmine] at halarm
            cases halarm

/-- A tick among tame listeners whose reply is read, or dropped as no frame, is healthy. -/
theorem healthy_of_isAnswered
    {w : World (AnsweredLine σ) Audience}
    (hw : w.audience.Plans Reaction.isTame)
    (hanswered : (tickAmong (answeredPort name peer) w).trace.isAnswered peer w.port.party =
      true) :
    (tickAmong (answeredPort name peer) w).state.courier.record.healthy = true := by
  obtain ⟨answers, acts, e, hcourse, -, hrecord, -, hshows, -⟩ :=
    exists_course_tick name (placid_hear name w.audience.depth) (patient_of_tame hw)
  have hacts : Trace.isAnswered peer (tickAmong (answeredPort name peer) w).trace _ = _ :=
    isAnswered_of_shows hshows
  rw [hacts] at hanswered
  exact (congrArg Record.healthy hrecord).trans (hcourse.healthy_of_answered hanswered)

/-! ## Rows of ticks -/

section Rows

variable {name} {w u v : World (AnsweredLine σ) Audience}
  {starts : List (World (AnsweredLine σ) Audience)} {t : Trace}

theorem policy_tick
    (hw : w.audience.Plans Reaction.isTame) :
    (tickAmong (answeredPort name peer) w).state.courier.policy = w.courier.policy := by
  obtain ⟨answers, acts, e, hcourse, hpolicy, -⟩ :=
    exists_course_tick name (placid_hear name w.audience.depth) (patient_of_tame hw)
  exact hpolicy.trans hcourse.policy_eq

/-- Ticks and what happens between them leave the policy as it is. -/
theorem Row.policy_eq
    (h : Row name peer w starts t u) :
    ∀ v ∈ starts, v.courier.policy = w.courier.policy := by
  induction h with
  | last haside =>
      intro v hv
      cases hv
  | tick haside htame hrest ih =>
      have hfirst := haside.1.policy_eq
      intro v hv
      rcases List.mem_cons.mp hv with rfl | hv
      · exact hfirst
      · exact (ih v hv).trans ((policy_tick htame).trans hfirst)

/-- Between ticks the link is healthy if no failure is counted, as it is after every tick. -/
theorem Row.healthy_iff
    (hsettled : ∀ v ∈ starts,
      let after := (tickAmong (answeredPort name peer) v).state.courier.record
      after.healthy = true ↔ after.failures = 0)
    (hw : w.courier.record.healthy = true ↔ w.courier.record.failures = 0)
    (h : Row name peer w starts t u) :
    u.courier.record.healthy = true ↔ u.courier.record.failures = 0 := by
  induction h with
  | last haside =>
      rw [haside.1.record_eq]
      exact hw
  | tick haside htame hrest ih =>
      exact ih (fun v hv => hsettled v (List.mem_cons_of_mem _ hv))
        (hsettled _ List.mem_cons_self)

/-- In a row of ticks that each count one failure more, the counts follow each other. -/
theorem Row.failures_getElem
    (hcounted : ∀ v ∈ starts, (tickAmong (answeredPort name peer) v).state.courier.record.failures =
      v.courier.record.failures + 1)
    (h : Row name peer w starts t u) :
    ∀ i (hi : i < starts.length),
      starts[i].courier.record.failures = w.courier.record.failures + i := by
  induction h with
  | last haside =>
      intro i hi
      cases hi
  | @tick w v u starts s t haside htame hrest ih =>
      have hfirst : v.courier.record.failures = w.courier.record.failures :=
        congrArg Record.failures haside.1.record_eq
      have hnext := hcounted v List.mem_cons_self
      intro i hi
      cases i with
      | zero =>
          exact hfirst
      | succ i =>
          have hlater := ih (fun u hu => hcounted u (List.mem_cons_of_mem _ hu)) i
            (Nat.lt_of_succ_lt_succ hi)
          rw [List.getElem_cons_succ]
          omega

/-- After a row of ticks the last of which cleared the count, no failure is counted. -/
theorem Row.failures_eq_zero
    (hcleared : ∀ v ∈ starts.getLast?,
      (tickAmong (answeredPort name peer) v).state.courier.record.failures = 0)
    (hw : w.courier.record.failures = 0)
    (h : Row name peer w starts t u) :
    u.courier.record.failures = 0 := by
  rcases List.eq_nil_or_concat starts with rfl | ⟨front, v, rfl⟩
  · cases h with
    | last haside =>
        rw [haside.1.record_eq]
        exact hw
  · rw [List.concat_eq_append] at h hcleared
    obtain ⟨m, s, s', -, hlast⟩ := h.split
    cases hlast with
    | tick haside htame hrest =>
        cases hrest with
        | last haside =>
            rw [haside.1.record_eq]
            exact hcleared v (by simp)

end Rows

theorem plans_watching_nobody
    {w : World (AnsweredLine σ) Audience}
    (hw : w.audience.Plans (Reaction.isPatient own who)) :
    w.audience.Plans (Reaction.isPatient own none) := by
  refine hw.mono fun r hr => ?_
  cases r with
  | halts h =>
      exact hr
  | performs op =>
      cases op <;> simp_all [Reaction.isPatient, Reaction.minds]

/-- Over every row of operations whose ticks return: between ticks the link is healthy if and
only if no failure is counted; a tick whose reply is read, or dropped as no frame, is healthy;
a healthy tick tells nothing of the link; and the ticks that fail one after another tell their
count from the retry limit on, each as the last event of its own. -/
theorem alarms_count_failures_in_a_row
    {ops : List Operation}
    {w : World (AnsweredLine σ) Audience}
    (hlimit : w.courier.policy.retryLimit.integer? = some limit)
    (hfresh : w.courier.record.healthy = true ∧ w.courier.record.failures = 0)
    (hplans : w.audience.Plans (Reaction.isPatient own who))
    (hown : ∀ e, own e = true → e.isAlarm = false)
    (hok : ∀ v ∈ tickStarts (answeredPort name peer) ops w,
      (tickAmong (answeredPort name peer) v).result = .ok ()) :
    let port := answeredPort name peer
    let ticks := tickStarts port ops w
    let last := (reached port ops w).courier.record
    let healthy := fun v => (tickAmong port v).state.courier.record.healthy
    (last.healthy = true ↔ last.failures = 0)
      ∧ (∀ v ∈ ticks,
        (tickAmong port v).trace.isAnswered peer v.port.party = true → healthy v = true)
      ∧ (∀ v ∈ ticks, healthy v = true →
        ∀ l e, .heard l e ∈ (tickAmong port v).trace → e.isAlarm = false)
      ∧ ∀ before block after, ticks = before ++ (block ++ after) →
        (∀ v ∈ before.getLast?, healthy v = true) → (∀ v ∈ block, healthy v = false) →
        ∀ i (hi : i < block.length),
          (tickAmong port block[i]).trace.Alerts own none limit (i + 1)
            ∧ ∀ l, who = some l → block[i].courier.listeners.Attends l →
              (tickAmong port block[i]).trace.Alerts own who limit (i + 1) := by
  intro port ticks last healthy
  have hrow : Row name peer w ticks _ (reached port ops w) :=
    row_of_operations name peer ops
      (hplans.mono fun r hr => (Bool.and_eq_true_iff.mp hr).1)
  have htick {watched : Option Listener} {v : World (AnsweredLine σ) Audience} (hv : v ∈ ticks)
      (hpatient : Patient own watched v) : Settles own watched limit v (tickAmong port v) :=
    settles_tick name hown (by rw [hrow.policy_eq v hv]; exact hlimit) hpatient (hok v hv)
  have hplanned {v : World (AnsweredLine σ) Audience} (hv : v ∈ ticks) :
      v.audience.Plans (Reaction.isPatient own who) := plans_tickStarts ops hplans v hv
  have hsettles {v : World (AnsweredLine σ) Audience} (hv : v ∈ ticks) :
      Settles own none limit v (tickAmong port v) :=
    htick hv ⟨by rintro l ⟨⟩, plans_watching_nobody (hplanned hv)⟩
  refine ⟨?_, ?_, ?_, ?_⟩
  · exact hrow.healthy_iff (fun v hv => (hsettles hv).healthy_iff) (by simp [hfresh])
  · exact fun v hv => healthy_of_isAnswered name
      ((hplanned hv).mono fun r hr => (Bool.and_eq_true_iff.mp hr).1)
  · exact fun v hv => (hsettles hv).quiet_of_healthy
  · intro before block after hticks hbefore hblock i hi
    rw [hticks] at hrow
    have hbeforemem : ∀ v ∈ before, v ∈ ticks := fun v hv => by simp [hticks, hv]
    have hblockmem : ∀ v ∈ block, v ∈ ticks := fun v hv => by simp [hticks, hv]
    -- the block begins without failures, and each of its ticks adds one
    obtain ⟨m, s, s', hfirst, hrest⟩ := hrow.split
    obtain ⟨m', t, t', hfailing, -⟩ := hrest.split
    have hzero : m.courier.record.failures = 0 := by
      refine hfirst.failures_eq_zero (fun v hv => ?_) hfresh.2
      exact (hsettles (hbeforemem v (List.mem_of_mem_getLast? hv))).healthy_iff.mp (hbefore v hv)
    have hcount : block[i].courier.record.failures = i := by
      have hstarts := hfailing.failures_getElem
        (fun v hv => ((hsettles (hblockmem v hv)).counted_of_failed (hblock v hv)).1) i hi
      rw [hstarts, hzero, Nat.zero_add]
    have hmem : block[i] ∈ block := List.getElem_mem hi
    have halerts {watched : Option Listener} (hpatient : Patient own watched block[i]) :
        (tickAmong port block[i]).trace.Alerts own watched limit (i + 1) := by
      have hfailed := (htick (hblockmem _ hmem) hpatient).counted_of_failed (hblock _ hmem)
      rw [hcount] at hfailed
      exact hfailed.2
    have hplans := hplanned (hblockmem _ hmem)
    refine ⟨halerts ⟨by rintro l ⟨⟩, plans_watching_nobody hplans⟩, fun l hl hattends => ?_⟩
    exact halerts ⟨fun m hm => by rw [hl] at hm; cases hm; exact hattends, hplans⟩

/-- With a retry limit of zero the first failure is the last event of its tick. -/
theorem alarms_count_failures_from_the_first :
    let port := answeredPort .null (.steady Responder.ofOutcomes)
    let fresh := unused [.error (.noReply "late")] [⟨⟨"rec", .null⟩, []⟩]
    let w := { fresh with courier := { fresh.courier with
      policy := { fresh.courier.policy with retryLimit := .int 0 } } }
    (reached port [.poll] w).courier.record.failures = 1
      ∧ (tickAmong port w).trace.Alerts (fun _ => false) (some ⟨"rec", .null⟩) 0 1 := by
  intro port fresh w
  have hplans : w.audience.Plans (Reaction.isPatient (fun _ => false) (some ⟨"rec", .null⟩)) := by
    intro m hm now hnow
    rw [List.mem_singleton.mp hm] at hnow
    cases hnow
  have hstarts : tickStarts port [.poll] w = [w] := rfl
  have hreturns : (tickAmong port w).result = .ok () := rfl
  have hfailed : (tickAmong port w).state.courier.record.healthy = false := rfl
  obtain ⟨-, -, -, hblocks⟩ :=
    alarms_count_failures_in_a_row .null rfl ⟨rfl, rfl⟩ hplans (fun e he => by cases he)
      fun v hv => List.mem_singleton.mp (hstarts ▸ hv) ▸ hreturns
  have hfirst := hblocks [] [w] [] rfl (fun v hv => by cases hv)
    (fun v hv => List.mem_singleton.mp hv ▸ hfailed) 0 Nat.zero_lt_one
  exact ⟨rfl, hfirst.2 _ rfl rfl⟩

end World

end AcceptorHost
