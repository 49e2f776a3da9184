import AcceptorHost.Registry
import Mathlib.Data.List.Induction

/-!
# A registry and its history

What has happened to a registry is a row of changes, the oldest first.  The registry is all
that the row says about it: whoever is registered goes back to a subscription after which
nobody equal was removed, and to the first one of these.  Listeners may be equal without
being the same; equality only has to be an equivalence.
-/

namespace AcceptorHost

namespace Registry

/-- What can happen to a registry. -/
inductive Change (α : Type) where
  | subscribed (l : α)
  | unsubscribed (l : α)
  | cleared
  deriving Repr

variable {α : Type} [BEq α]

/-- A change removes a listener if it is registered. -/
def Change.removes : Change α → α → Bool
  | .subscribed _, _ => false
  | .unsubscribed l, m => m == l
  | .cleared, _ => true

/-- The listener that a change adds to a registry. -/
def Change.adds (r : Registry α) : Change α → List α
  | .subscribed l => if r.listeners.any (· == l) then [] else [l]
  | _ => []

/-- A registry after a change. -/
def changed (r : Registry α) : Change α → Registry α
  | .subscribed l => r.subscribe l
  | .unsubscribed l => r.unsubscribe l
  | .cleared => empty

/-- A registry after a row of changes. -/
def after (r : Registry α) (history : List (Change α)) : Registry α := history.foldl changed r

/-- A listener is subscribed at a place in a history, and from there on nobody equal is removed. -/
def Stands (history : List (Change α)) (i : Nat) (l : α) : Prop :=
  history[i]? = some (.subscribed l) ∧ ∀ c ∈ history.drop i, c.removes l = false

/-- Of the subscriptions of equal listeners that stand, one is the first. -/
def Founds (history : List (Change α)) (i : Nat) (l : α) : Prop :=
  Stands history i l ∧ ∀ j < i, ∀ m, Stands history j m → (m == l) = false

/-- A row holds the listeners of a registry, each with the place of the subscription that it goes
back to. -/
structure Roster (history : List (Change α)) (r : Registry α) (row : List (Nat × α)) : Prop where
  listeners : row.map Prod.snd = r.listeners
  ordered : row.Pairwise fun p q => p.1 < q.1
  founded : ∀ i l, (i, l) ∈ row ↔ Founds history i l

/-- A registry is what a history makes of it. -/
structure Reflects (r : Registry α) (history : List (Change α)) : Prop where
  unequal : r.listeners.Pairwise fun l m => (l == m) = false
  registered : ∀ l, (∃ m ∈ r.listeners, (m == l) = true) ↔
    ∃ i m, Stands history i m ∧ (m == l) = true
  ordered : ∃ row, Roster history r row

/-! ## One more change -/

/-- A change removes listeners where they stand and adds one at the end. -/
theorem listeners_changed
    (r : Registry α)
    (c : Change α) :
    (r.changed c).listeners = r.listeners.filter (fun l => !c.removes l) ++ c.adds r := by
  cases c with
  | subscribed l =>
      have hkept : r.listeners.filter (fun m => !(Change.subscribed l).removes m) = r.listeners :=
        List.filter_eq_self.mpr fun _ _ => rfl
      rw [hkept]
      change (r.subscribe l).listeners = r.listeners ++ if _ then [] else [l]
      unfold subscribe
      split
      · exact (List.append_nil _).symm
      · rfl
  | unsubscribed l =>
      exact (List.append_nil _).symm
  | cleared =>
      have hgone : r.listeners.filter (fun m => !(Change.cleared : Change α).removes m) = [] :=
        List.filter_eq_nil_iff.mpr fun _ _ => Bool.false_ne_true
      rw [hgone]
      rfl

theorem Change.mem_adds
    {r : Registry α}
    {c : Change α}
    {l : α} :
    l ∈ c.adds r ↔ c = .subscribed l ∧ ∀ m ∈ r.listeners, (m == l) = false := by
  cases c with
  | subscribed k =>
      have hadds : (Change.subscribed k).adds r = if r.listeners.any (· == k) then [] else [k] :=
        rfl
      have hany : r.listeners.any (· == k) = false ↔ ∀ m ∈ r.listeners, (m == k) = false := by
        simp
      rw [hadds]
      split
      · rename_i hk
        refine ⟨fun h => absurd h List.not_mem_nil, fun h => ?_⟩
        obtain ⟨rfl⟩ := Change.subscribed.inj h.1
        rw [hany.mpr h.2] at hk
        cases hk
      · rename_i hk
        rw [List.mem_singleton]
        constructor
        · rintro rfl
          exact ⟨rfl, hany.mp (Bool.eq_false_iff.mpr hk)⟩
        · exact fun h => (Change.subscribed.inj h.1).symm
  | _ =>
      exact iff_of_false List.not_mem_nil fun h => by cases h.1

theorem Change.pairwise_adds
    (c : Change α)
    (r : Registry α)
    (R : α → α → Prop) :
    (c.adds r).Pairwise R := by
  unfold adds
  split
  · split
    · exact List.Pairwise.nil
    · exact List.pairwise_singleton R _
  · exact List.Pairwise.nil

theorem after_append
    (r : Registry α)
    (history more : List (Change α)) :
    r.after (history ++ more) = (r.after history).after more := List.foldl_append

theorem Stands.lt_length
    {history : List (Change α)}
    {i : Nat}
    {l : α}
    (h : Stands history i l) :
    i < history.length := (List.getElem?_eq_some_iff.mp h.1).1

theorem stands_concat
    {history : List (Change α)}
    {c : Change α}
    {i : Nat}
    {l : α} :
    Stands (history ++ [c]) i l ↔
      Stands history i l ∧ c.removes l = false ∨ i = history.length ∧ c = .subscribed l := by
  rcases Nat.lt_trichotomy i history.length with hlt | rfl | hgt
  · have hdrop : (history ++ [c]).drop i = history.drop i ++ [c] :=
      List.drop_append_of_le_length (Nat.le_of_lt hlt)
    unfold Stands
    rw [List.getElem?_append_left hlt, hdrop, List.forall_mem_append, List.forall_mem_singleton,
      and_assoc]
    exact ⟨Or.inl, fun h => h.resolve_right fun k => Nat.ne_of_lt hlt k.1⟩
  · have hdrop : (history ++ [c]).drop history.length = [c] := List.drop_left
    unfold Stands
    rw [List.getElem?_concat_length, hdrop, List.forall_mem_singleton, Option.some.injEq]
    constructor
    · exact fun h => Or.inr ⟨rfl, h.1⟩
    · rintro (⟨h, -⟩ | ⟨-, rfl⟩)
      · exact absurd (Stands.lt_length h) (Nat.lt_irrefl _)
      · exact ⟨rfl, rfl⟩
  · constructor
    · intro h
      have hlength := h.lt_length
      rw [List.length_append, List.length_singleton] at hlength
      omega
    · rintro (⟨h, -⟩ | ⟨rfl, -⟩)
      · exact absurd h.lt_length (Nat.not_lt_of_gt hgt)
      · exact absurd hgt (Nat.lt_irrefl _)

variable [EquivBEq α]

theorem Change.removes_congr
    (c : Change α)
    {l m : α}
    (h : (l == m) = true) :
    c.removes l = c.removes m := by
  cases c with
  | unsubscribed k =>
      exact BEq.congr_left h
  | _ =>
      rfl

theorem founds_concat
    {history : List (Change α)}
    {c : Change α}
    {i : Nat}
    {l : α} :
    Founds (history ++ [c]) i l ↔
      Founds history i l ∧ c.removes l = false
        ∨ (i = history.length ∧ c = .subscribed l)
          ∧ ∀ j m, Stands history j m → (m == l) = false := by
  constructor
  · rintro ⟨hstands, hfirst⟩
    have hearlier {j : Nat} {m : α} (hj : j < i) (hm : Stands history j m)
        (hkept : c.removes m = false) : (m == l) = false :=
      hfirst j hj m (stands_concat.mpr (Or.inl ⟨hm, hkept⟩))
    rcases stands_concat.mp hstands with ⟨hbefore, hspared⟩ | ⟨rfl, rfl⟩
    · refine Or.inl ⟨⟨hbefore, fun j hj m hm => ?_⟩, hspared⟩
      -- An equal listener is spared as well, so its subscription still stands.
      by_contra hequal
      rw [Bool.not_eq_false] at hequal
      have hother := hearlier hj hm ((c.removes_congr hequal).trans hspared)
      rw [hequal] at hother
      cases hother
    · exact Or.inr ⟨⟨rfl, rfl⟩, fun j m hm => hearlier hm.lt_length hm rfl⟩
  · rintro (⟨⟨hstands, hfirst⟩, hspared⟩ | ⟨⟨rfl, rfl⟩, hnew⟩)
    · refine ⟨stands_concat.mpr (Or.inl ⟨hstands, hspared⟩), fun j hj m hm => ?_⟩
      rcases stands_concat.mp hm with ⟨hbefore, -⟩ | ⟨rfl, -⟩
      · exact hfirst j hj m hbefore
      · exact absurd hstands.lt_length (Nat.not_lt_of_gt hj)
    · refine ⟨stands_concat.mpr (Or.inr ⟨rfl, rfl⟩), fun j hj m hm => ?_⟩
      rcases stands_concat.mp hm with ⟨hbefore, -⟩ | ⟨rfl, -⟩
      · exact hnew j m hbefore
      · exact absurd hj (Nat.lt_irrefl _)

/-! ## The whole history -/

section Rosters

variable {history : List (Change α)} {r : Registry α} {row : List (Nat × α)}

/-- Where a subscription stands, one of an equal listener is the first that stands. -/
theorem Stands.exists_founds
    {i : Nat}
    {l : α}
    (h : Stands history i l) :
    ∃ j m, Founds history j m ∧ (m == l) = true := by
  induction i using Nat.strongRecOn generalizing l with
  | ind i ih =>
      by_cases hfirst : ∀ j < i, ∀ m, Stands history j m → (m == l) = false
      · exact ⟨i, l, ⟨h, hfirst⟩, BEq.rfl⟩
      · push Not at hfirst
        obtain ⟨j, hj, m, hm, hequal⟩ := hfirst
        obtain ⟨k, n, hfounds, hsame⟩ := ih j hj hm
        exact ⟨k, n, hfounds, BEq.trans hsame ((Bool.not_eq_false _).mp hequal)⟩

namespace Roster

variable (h : Roster history r row)
include h

omit [EquivBEq α] in
theorem mem_listeners
    {l : α} :
    l ∈ r.listeners ↔ ∃ i, Founds history i l := by
  rw [← h.listeners, List.mem_map]
  constructor
  · rintro ⟨⟨i, m⟩, hm, rfl⟩
    exact ⟨i, (h.founded i m).mp hm⟩
  · rintro ⟨i, hi⟩
    exact ⟨(i, l), (h.founded i l).mpr hi, rfl⟩

theorem registered
    (l : α) :
    (∃ m ∈ r.listeners, (m == l) = true) ↔ ∃ i m, Stands history i m ∧ (m == l) = true := by
  constructor
  · rintro ⟨m, hm, hequal⟩
    obtain ⟨i, hi⟩ := h.mem_listeners.mp hm
    exact ⟨i, m, hi.1, hequal⟩
  · rintro ⟨i, m, hm, hequal⟩
    obtain ⟨j, k, hfounds, hsame⟩ := hm.exists_founds
    exact ⟨k, h.mem_listeners.mpr ⟨j, hfounds⟩, BEq.trans hsame hequal⟩

omit [EquivBEq α] in
/-- Of two listeners of a registry the later one goes back to a subscription at which no equal one
stood. -/
theorem unequal :
    r.listeners.Pairwise fun l m => (l == m) = false := by
  rw [← h.listeners, List.pairwise_map]
  refine h.ordered.imp_of_mem fun {p q} hp hq hlt => ?_
  exact ((h.founded q.1 q.2).mp hq).2 p.1 hlt p.2 ((h.founded p.1 p.2).mp hp).1

/-- A change strikes out whom it removes and adds whom it founds. -/
theorem changed
    (c : Change α) :
    Roster (history ++ [c]) (r.changed c)
      (row.filter (fun p => !c.removes p.2) ++ (c.adds r).map (history.length, ·)) where
  listeners := by
    have hkept :
        (row.filter fun p => !c.removes p.2).map Prod.snd =
          r.listeners.filter fun l => !c.removes l := by
      rw [← h.listeners, List.filter_map]
      rfl
    rw [List.map_append, hkept, List.map_map, listeners_changed]
    exact congrArg _ (List.map_id _)
  ordered := by
    rw [List.pairwise_append]
    refine ⟨h.ordered.filter _, ?_, fun p hp q hq => ?_⟩
    · exact List.pairwise_map.mpr (c.pairwise_adds r _)
    · obtain ⟨l, -, rfl⟩ := List.mem_map.mp hq
      exact ((h.founded p.1 p.2).mp (List.mem_filter.mp hp).1).1.lt_length
  founded i l := by
    have hnew : (∀ m ∈ r.listeners, (m == l) = false) ↔
        ∀ j m, Stands history j m → (m == l) = false := by
      have hnone := not_congr (h.registered l)
      push Not at hnone
      simpa only [ne_eq, Bool.not_eq_true] using hnone
    rw [founds_concat, List.mem_append, List.mem_filter, h.founded, List.mem_map, ← hnew]
    simp only [Bool.not_eq_true', Prod.mk.injEq, Change.mem_adds]
    constructor
    · rintro (hkept | ⟨m, ⟨hc, hm⟩, rfl, rfl⟩)
      · exact Or.inl hkept
      · exact Or.inr ⟨⟨rfl, hc⟩, hm⟩
    · rintro (hkept | ⟨⟨rfl, hc⟩, hm⟩)
      · exact Or.inl hkept
      · exact Or.inr ⟨l, ⟨hc, hm⟩, rfl, rfl⟩

end Roster

/-- Whatever has happened to a registry, every listener goes back to a subscription. -/
theorem exists_roster
    (history : List (Change α)) :
    ∃ row, Roster history (empty.after history) row := by
  induction history using List.reverseRecOn with
  | nil =>
      refine ⟨[], rfl, List.Pairwise.nil, fun i l => ?_⟩
      exact iff_of_false List.not_mem_nil fun h => absurd h.1.lt_length (Nat.not_lt_zero i)
  | append_singleton history c ih =>
      obtain ⟨row, hrow⟩ := ih
      rw [after_append]
      exact ⟨_, hrow.changed c⟩

/-- A registry that starts empty is what its history makes of it. -/
theorem reflects_after
    (history : List (Change α)) :
    (empty.after history).Reflects history := by
  obtain ⟨row, hrow⟩ := exists_roster history
  exact ⟨hrow.unequal, hrow.registered, row, hrow⟩

end Rosters

end Registry

end AcceptorHost
