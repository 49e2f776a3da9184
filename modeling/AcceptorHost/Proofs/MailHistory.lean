import AcceptorHost.Courier.Basic

/-!
# Histories of a mailbox

A mailbox has a history of requests that are left in it and of takings, each of which
takes what is due.  A request waits if it was left after it was last taken, however
often; so what waits, what is taken and how often follow from the history alone.
-/

namespace AcceptorHost

/-- What happens to a mailbox. -/
inductive Mail where
  /-- A request is left in it. -/
  | asked (r : Request)
  /-- The next request is taken out of it, if one waits. -/
  | took (x : Option Request)
  deriving DecidableEq, Repr

/-- A request has been left since it was last taken. -/
def Request.Waits (r : Request) (h : List Mail) : Prop :=
  ∃ earlier later, h = earlier ++ .asked r :: later ∧ .took (some r) ∉ later

namespace Request

variable {r : Request}

theorem not_waits_nil :
    ¬ r.Waits [] := by
  rintro ⟨earlier, later, h, -⟩
  cases earlier <;> cases h

theorem waits_asked
    (q : Request)
    (h : List Mail) :
    r.Waits (.asked q :: h) ↔ r.Waits h ∨ q = r ∧ .took (some r) ∉ h := by
  constructor
  · rintro ⟨earlier, later, heq, hlater⟩
    cases earlier with
    | nil =>
        cases heq
        exact Or.inr ⟨rfl, hlater⟩
    | cons first rest =>
        cases heq
        exact Or.inl ⟨rest, later, rfl, hlater⟩
  · rintro (⟨earlier, later, rfl, hlater⟩ | ⟨rfl, hlater⟩)
    · exact ⟨.asked q :: earlier, later, rfl, hlater⟩
    · exact ⟨[], h, rfl, hlater⟩

theorem waits_took
    (x : Option Request)
    (h : List Mail) :
    r.Waits (.took x :: h) ↔ r.Waits h := by
  constructor
  · rintro ⟨earlier, later, heq, hlater⟩
    cases earlier with
    | nil =>
        cases heq
    | cons first rest =>
        cases heq
        exact ⟨rest, later, rfl, hlater⟩
  · rintro ⟨earlier, later, rfl, hlater⟩
    exact ⟨.took x :: earlier, later, rfl, hlater⟩

theorem asked_mem_of_waits
    {h : List Mail}
    (hr : r.Waits h) :
    .asked r ∈ h := by
  obtain ⟨earlier, later, rfl, -⟩ := hr
  simp

end Request

/-- A history in which requests serve once: each taking takes what waits, identity first;
no request is taken more often than it is left, nor again before it is left again; and two
takings in a row leave nothing waiting. -/
structure Mail.OneShot (h : List Mail) : Prop where
  due : ∀ a x b, h = a ++ .took x :: b →
    (x = some .identity ↔ Request.identity.Waits a)
      ∧ (x = some .reset ↔ Request.reset.Waits a ∧ ¬ Request.identity.Waits a)
  bounded : ∀ r, h.count (.took (some r)) ≤ h.count (.asked r)
  renewed : ∀ r a b c, h = a ++ .took (some r) :: (b ++ .took (some r) :: c) → .asked r ∈ b
  cleared : ∀ a x y c, h = a ++ .took x :: .took y :: c →
    (∀ r : Request, r.Waits a → x = some r ∨ y = some r)
      ∧ ∀ r : Request, ¬ r.Waits (a ++ [.took x, .took y])

namespace Mailbox

theorem holds_empty
    (r : Request) :
    empty.holds r = false := by
  cases r <;> rfl

theorem holds_add
    (m : Mailbox)
    (q r : Request) :
    (m.add q).holds r = true ↔ m.holds r = true ∨ q = r := by
  cases q <;> cases r <;> simp [add, holds]

/-- What is due is taken out, and nothing else. -/
theorem holds_take
    (m : Mailbox)
    (r : Request) :
    m.take.2.holds r = true ↔ m.holds r = true ∧ m.take.1 ≠ some r := by
  obtain ⟨identity, reset⟩ := m
  cases identity <;> cases reset <;> cases r <;> simp [take, holds]

theorem holds_of_take
    {m : Mailbox}
    {r : Request}
    (h : m.take.1 = some r) :
    m.holds r = true := by
  obtain ⟨identity, reset⟩ := m
  cases identity <;> cases reset <;> cases h <;> rfl

theorem take_eq_identity
    (m : Mailbox) :
    m.take.1 = some .identity ↔ m.holds .identity = true := by
  obtain ⟨identity, reset⟩ := m
  cases identity <;> cases reset <;> simp [take, holds]

theorem take_eq_reset
    (m : Mailbox) :
    m.take.1 = some .reset ↔ m.holds .reset = true ∧ m.holds .identity = false := by
  obtain ⟨identity, reset⟩ := m
  cases identity <;> cases reset <;> simp [take, holds]

/-- Two takings empty a mailbox. -/
theorem take_take
    (m : Mailbox) :
    m.take.2.take.2 = empty := by
  obtain ⟨identity, reset⟩ := m
  cases identity <;> cases reset <;> rfl

/-- A request that is left in a mailbox counts there at most once. -/
theorem toNat_holds_add
    (m : Mailbox)
    (q r : Request) :
    ((m.add q).holds r).toNat ≤ (m.holds r).toNat + if q = r then 1 else 0 := by
  obtain ⟨identity, reset⟩ := m
  cases identity <;> cases reset <;> cases q <;> cases r <;> decide

/-- What a taking takes and what it leaves was there. -/
theorem toNat_holds_take
    (m : Mailbox)
    (r : Request) :
    (m.holds r).toNat = (m.take.2.holds r).toNat + if m.take.1 = some r then 1 else 0 := by
  obtain ⟨identity, reset⟩ := m
  cases identity <;> cases reset <;> cases r <;> decide

/-- A history leads from one content of a mailbox to another, and takes what is due. -/
inductive History : Mailbox → List Mail → Mailbox → Prop
  | nil
      (m : Mailbox) :
      History m [] m
  | asked
      {m n : Mailbox}
      {h : List Mail}
      (r : Request)
      (rest : History (m.add r) h n) :
      History m (.asked r :: h) n
  | took
      {m n : Mailbox}
      {h : List Mail}
      (rest : History m.take.2 h n) :
      History m (.took m.take.1 :: h) n

namespace History

variable {m n k : Mailbox} {h g : List Mail} {r : Request}

theorem append
    (first : History m h k)
    (second : History k g n) :
    History m (h ++ g) n := by
  induction first with
  | nil m =>
      exact second
  | asked r rest ih =>
      exact .asked r (ih second)
  | took rest ih =>
      exact .took (ih second)

theorem split
    (hist : History m (h ++ g) n) :
    ∃ k, History m h k ∧ History k g n := by
  induction h generalizing m with
  | nil =>
      exact ⟨m, .nil m, hist⟩
  | cons e rest ih =>
      cases hist with
      | asked r hrest =>
          obtain ⟨k, hfirst, hsecond⟩ := ih hrest
          exact ⟨k, .asked r hfirst, hsecond⟩
      | took hrest =>
          obtain ⟨k, hfirst, hsecond⟩ := ih hrest
          exact ⟨k, .took hfirst, hsecond⟩

/-- What a mailbox holds was left in it since it was last taken, or was there from the start. -/
theorem holds_iff
    (hist : History m h n) :
    n.holds r = true ↔ r.Waits h ∨ m.holds r = true ∧ .took (some r) ∉ h := by
  induction hist with
  | nil m =>
      simp [Request.not_waits_nil]
  | asked q rest ih =>
      rw [ih, Request.waits_asked, holds_add]
      simp only [List.mem_cons, reduceCtorEq, false_or]
      grind
  | took rest ih =>
      rw [ih, Request.waits_took, holds_take]
      simp only [List.mem_cons, Mail.took.injEq]
      grind

/-- From an empty mailbox on, it holds what waits. -/
theorem holds_iff_waits
    (hist : History empty h n) :
    n.holds r = true ↔ r.Waits h := by
  rw [hist.holds_iff, holds_empty]
  simp

theorem took_iff
    {x : Option Request}
    (hist : History m (.took x :: h) n) :
    x = m.take.1 ∧ History m.take.2 h n := by
  cases hist with
  | took rest =>
      exact ⟨rfl, rest⟩

/-- Whenever something is taken, it is the identity request if that one waits, and else the
reset request if that one does. -/
theorem taken_iff
    {x : Option Request}
    (hist : History empty (h ++ .took x :: g) n) :
    (x = some .identity ↔ Request.identity.Waits h)
      ∧ (x = some .reset ↔ Request.reset.Waits h ∧ ¬ Request.identity.Waits h) := by
  obtain ⟨k, hbefore, hafter⟩ := hist.split
  obtain ⟨rfl, -⟩ := hafter.took_iff
  rw [take_eq_identity, take_eq_reset, ← Bool.not_eq_true, hbefore.holds_iff_waits,
    hbefore.holds_iff_waits]
  exact ⟨Iff.rfl, Iff.rfl⟩

/-- What was taken of a request and what is left of it was left in the mailbox before. -/
theorem count_took_le
    (hist : History m h n) :
    h.count (.took (some r)) + (n.holds r).toNat ≤
      h.count (.asked r) + (m.holds r).toNat := by
  induction hist with
  | nil m =>
      simp
  | @asked m n h q rest ih =>
      have hadd := toNat_holds_add m q r
      have htook : (Mail.asked q :: h).count (.took (some r)) = h.count (.took (some r)) :=
        List.count_cons_of_ne Mail.noConfusion
      have hasked : (Mail.asked q :: h).count (.asked r) =
          h.count (.asked r) + if q = r then 1 else 0 := by
        simp [List.count_cons]
      omega
  | @took m n h rest ih =>
      have htake := toNat_holds_take m r
      have htook : (Mail.took m.take.1 :: h).count (.took (some r)) =
          h.count (.took (some r)) + if m.take.1 = some r then 1 else 0 := by
        simp [List.count_cons]
      have hasked : (Mail.took m.take.1 :: h).count (.asked r) = h.count (.asked r) :=
        List.count_cons_of_ne Mail.noConfusion
      omega

/-- Between two takings of a request it is left again. -/
theorem asked_between
    {a b c : List Mail}
    (hist : History m (a ++ .took (some r) :: (b ++ .took (some r) :: c)) n) :
    .asked r ∈ b := by
  obtain ⟨k, -, hfirst⟩ := hist.split
  obtain ⟨hk, hrest⟩ := hfirst.took_iff
  obtain ⟨q, hb, hsecond⟩ := hrest.split
  obtain ⟨hq, -⟩ := hsecond.took_iff
  have hgone : ¬ k.take.2.holds r = true := fun h => ((holds_take k r).mp h).2 hk.symm
  rcases hb.holds_iff.mp (holds_of_take hq.symm) with hwaits | ⟨hholds, -⟩
  · exact Request.asked_mem_of_waits hwaits
  · exact absurd hholds hgone

/-- Two takings with nothing left between them take all that waits. -/
theorem took_took
    {a c : List Mail}
    {x y : Option Request}
    (hist : History empty (a ++ .took x :: .took y :: c) n) :
    (∀ r : Request, r.Waits a → x = some r ∨ y = some r)
      ∧ ∀ r : Request, ¬ r.Waits (a ++ [.took x, .took y]) := by
  obtain ⟨k, hbefore, hfirst⟩ := hist.split
  obtain ⟨rfl, hrest⟩ := hfirst.took_iff
  obtain ⟨rfl, -⟩ := hrest.took_iff
  have hboth : History empty (a ++ [.took k.take.1, .took k.take.2.take.1]) k.take.2.take.2 :=
    hbefore.append (.took (.took (.nil _)))
  constructor
  · intro r hr
    have hholds := hbefore.holds_iff_waits.mpr hr
    by_cases hx : k.take.1 = some r
    · exact Or.inl hx
    · by_cases hy : k.take.2.take.1 = some r
      · exact Or.inr hy
      · have hleft : k.take.2.take.2.holds r = true :=
          (holds_take _ r).mpr ⟨(holds_take k r).mpr ⟨hholds, hx⟩, hy⟩
        rw [take_take, holds_empty] at hleft
        cases hleft
  · intro r hr
    have hleft := hboth.holds_iff_waits.mpr hr
    rw [take_take, holds_empty] at hleft
    cases hleft

/-- From an empty mailbox on, every request that is left serves at most once. -/
theorem oneShot
    (hist : History empty h n) :
    Mail.OneShot h where
  due := by
    rintro a x b rfl
    exact hist.taken_iff
  bounded r := by
    have hcount := hist.count_took_le (r := r)
    rw [holds_empty] at hcount
    exact Nat.le_trans (Nat.le_add_right _ _) hcount
  renewed := by
    rintro r a b c rfl
    exact hist.asked_between
  cleared := by
    rintro a x y c rfl
    exact hist.took_took

/-- The contents of a mailbox have a history. -/
theorem of_pending
    (m : Mailbox) :
    History empty (m.pending.map .asked) m := by
  obtain ⟨identity, reset⟩ := m
  cases identity <;> cases reset
  · exact .nil _
  · exact .asked .reset (.nil _)
  · exact .asked .identity (.nil _)
  · exact .asked .identity (.asked .reset (.nil _))

end History

end Mailbox

end AcceptorHost
