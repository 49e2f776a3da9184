import AcceptorHost.Registry

/-!
# Laws of runs

What a composed run reports, by the ending of its first part.  A `Passage` is a
relation between a state, a trace that is left from there and the state in which
it is left, which holds of staying where one is and of going on.  Runs that follow
a passage do so when they are composed, whatever they return and however they halt.
-/

namespace AcceptorHost

namespace Run

variable {S α β : Type}

theorem bind_of_ok
    {x : Run S α}
    {f : α → Run S β}
    {s : S}
    {a : α}
    (h : (x s).result = .ok a) :
    (x >>= f) s =
      ⟨(x s).trace ++ (f a (x s).state).trace, (f a (x s).state).result,
        (f a (x s).state).state⟩ := by
  change andThen x f s = _
  simp only [andThen, h]

theorem bind_of_error
    {x : Run S α}
    {f : α → Run S β}
    {s : S}
    {e : Halt}
    (h : (x s).result = .error e) :
    (x >>= f) s = ⟨(x s).trace, .error e, (x s).state⟩ := by
  change andThen x f s = _
  simp only [andThen, h]

/-- Where a composed run returns, its first part does, and then its second. -/
theorem ok_of_bind
    {x : Run S α}
    {f : α → Run S β}
    {s : S}
    {b : β}
    (h : ((x >>= f) s).result = .ok b) :
    ∃ a, (x s).result = .ok a ∧ (f a (x s).state).result = .ok b := by
  cases hx : (x s).result with
  | error e =>
      rw [bind_of_error hx] at h
      cases h
  | ok a =>
      rw [bind_of_ok hx] at h
      exact ⟨a, rfl, h⟩

/-- What follows a run depends only on its report. -/
theorem bind_congr
    {x y : Run S α}
    {s t : S}
    (h : x s = y t)
    (f : α → Run S β) :
    (x >>= f) s = (y >>= f) t := by
  change andThen x f s = andThen y f t
  simp only [andThen, h]

theorem attempt_congr
    {x y : Run S α}
    {s t : S}
    (h : x s = y t) :
    attempt x s = attempt y t := by
  simp only [attempt, h]

/-- What follows without a trace or a change leaves the trace and the state as they are. -/
theorem bind_silent
    {f : α → Run S β}
    (hf : ∀ a s, (f a s).trace = [] ∧ (f a s).state = s)
    (x : Run S α)
    (s : S) :
    ((x >>= f) s).trace = (x s).trace ∧ ((x >>= f) s).state = (x s).state := by
  cases h : (x s).result with
  | error e =>
      rw [bind_of_error h]
      exact ⟨rfl, rfl⟩
  | ok a =>
      obtain ⟨htrace, hstate⟩ := hf a (x s).state
      rw [bind_of_ok h]
      refine ⟨?_, hstate⟩
      change (x s).trace ++ (f a (x s).state).trace = _
      rw [htrace, List.append_nil]

/-- What a run returns may be changed on its way out. -/
theorem bind_give
    (g : α → β)
    (x : Run S α)
    (s : S) :
    (x >>= fun a => give (g a)) s = ⟨(x s).trace, (x s).result.map g, (x s).state⟩ := by
  cases h : (x s).result with
  | error e =>
      rw [bind_of_error h]
      rfl
  | ok a =>
      rw [bind_of_ok h]
      change Report.mk ((x s).trace ++ []) _ _ = _
      rw [List.append_nil]
      rfl

theorem bind_assoc
    {γ : Type}
    (x : Run S α)
    (f : α → Run S β)
    (g : β → Run S γ) :
    (x >>= f) >>= g = x >>= fun a => f a >>= g := by
  funext s
  cases h : (x s).result with
  | error e =>
      have hf : ((x >>= f) s).result = .error e := by rw [bind_of_error h]
      rw [bind_of_error hf, bind_of_error h, bind_of_error h]
  | ok a =>
      have hf := bind_of_ok (f := f) h
      have hg := bind_of_ok (f := fun a => f a >>= g) h
      cases k : (f a (x s).state).result with
      | error e =>
          have hr : ((x >>= f) s).result = .error e := by rw [hf, k]
          rw [bind_of_error hr, hg, bind_of_error k, hf]
      | ok b =>
          have hr : ((x >>= f) s).result = .ok b := by rw [hf, k]
          rw [bind_of_ok hr, hg, bind_of_ok k, hf, List.append_assoc]

theorem handle_of_ok
    {x : Run S α}
    {f : Halt → Run S α}
    {s : S}
    {a : α}
    (h : (x s).result = .ok a) :
    handle x f s = ⟨(x s).trace, .ok a, (x s).state⟩ := by
  simp only [handle, h]

theorem handle_of_error
    {x : Run S α}
    {f : Halt → Run S α}
    {s : S}
    {e : Halt}
    (h : (x s).result = .error e) :
    handle x f s =
      ⟨(x s).trace ++ (f e (x s).state).trace, (f e (x s).state).result,
        (f e (x s).state).state⟩ := by
  simp only [handle, h]

/-- What follows a handled halt follows its handler. -/
theorem handle_bind_of_error
    {x : Run S α}
    {f : Halt → Run S α}
    {g : α → Run S β}
    {s : S}
    {e : Halt}
    (h : (x s).result = .error e) :
    (handle x f >>= g) s =
      ⟨(x s).trace ++ ((f e >>= g) (x s).state).trace, ((f e >>= g) (x s).state).result,
        ((f e >>= g) (x s).state).state⟩ := by
  have hhandle := handle_of_error (f := f) h
  cases hf : (f e (x s).state).result with
  | ok a =>
      have hok : (handle x f s).result = .ok a := by rw [hhandle, hf]
      rw [bind_of_ok hok, bind_of_ok hf, hhandle, List.append_assoc]
  | error k =>
      have herror : (handle x f s).result = .error k := by rw [hhandle, hf]
      rw [bind_of_error herror, bind_of_error hf, hhandle]

end Run

/-- A relation along runs: it holds of standing still and of one stretch after another. -/
structure Passage (S : Type) where
  holds : S → Trace → S → Prop
  stay : ∀ s, holds s [] s
  onward : ∀ {s t r u q}, holds s t r → holds r u q → holds s (t ++ u) q

/-- The passage from states in which an invariant holds, which it does ever after. -/
def Passage.under
    {S : Type}
    (inv : S → Prop)
    (p : Passage S) :
    Passage S where
  holds s t r := inv s → p.holds s t r ∧ inv r
  stay s h := ⟨p.stay s, h⟩
  onward := by
    intro s t r u q h k hs
    obtain ⟨hfirst, hr⟩ := h hs
    obtain ⟨hsecond, hq⟩ := k hr
    exact ⟨p.onward hfirst hsecond, hq⟩

namespace Run

variable {S α β : Type}

/-- Whatever a run returns and however it halts, the passage holds along it. -/
def Follows (p : Passage S) (x : Run S α) : Prop :=
  ∀ s, p.holds s (x s).trace (x s).state

namespace Follows

variable {p : Passage S} {x : Run S α}

theorem give
    (a : α) :
    Follows p (Run.give a) := fun s => p.stay s

theorem halt
    (h : Halt) :
    Follows p (Run.halt h : Run S α) := fun s => p.stay s

theorem look
    (f : S → α) :
    Follows p (Run.look f) := fun s => p.stay s

theorem ofExcept
    (r : Except Fault α) :
    Follows p (Run.ofExcept r) := by
  cases r with
  | ok a =>
      exact give a
  | error f =>
      exact halt (.fault f)

theorem bind
    {f : α → Run S β}
    (hx : Follows p x)
    (hf : ∀ a, Follows p (f a)) :
    Follows p (x >>= f) := by
  intro s
  cases h : (x s).result with
  | ok a =>
      rw [bind_of_ok h]
      exact p.onward (hx s) (hf a (x s).state)
  | error e =>
      rw [bind_of_error h]
      exact hx s

/-- What is done with a value needs to follow only where there is that value. -/
theorem ofExcept_bind
    {r : Except Fault α}
    {f : α → Run S β}
    (hf : ∀ a, r = .ok a → Follows p (f a)) :
    Follows p (Run.ofExcept r >>= f) := by
  cases r with
  | ok a =>
      exact fun s => hf a rfl s
  | error e =>
      exact fun s => p.stay s

theorem handle
    {f : Halt → Run S α}
    (hx : Follows p x)
    (hf : ∀ h, Follows p (f h)) :
    Follows p (Run.handle x f) := by
  intro s
  cases h : (x s).result with
  | ok a =>
      rw [handle_of_ok h]
      exact hx s
  | error e =>
      rw [handle_of_error h]
      exact p.onward (hx s) (hf e (x s).state)

theorem attempt
    (hx : Follows p x) :
    Follows p (Run.attempt x) := fun s => hx s

theorem ite
    {b : Prop}
    [Decidable b]
    {y : Run S α}
    (hx : Follows p x)
    (hy : Follows p y) :
    Follows p (if b then x else y) := by
  split
  · exact hx
  · exact hy

/-- A delivery whose fault is noted follows a passage that it follows without. -/
theorem contained
    {label : α → String}
    {deliver : α → Event → Run S Unit}
    {event : Event}
    {l : α}
    (hdeliver : Follows p (deliver l event))
    (hnote : Follows p (Run.emit (.listenerFailed (label l) event))) :
    Follows p (Run.contained label deliver event l) := by
  refine handle hdeliver fun h => ?_
  cases h with
  | fault f =>
      exact hnote
  | exit status =>
      exact halt (.exit status)

theorem dispatch
    {label : α → String}
    {deliver : α → Event → Run S Unit}
    {event : Event}
    (hdeliver : ∀ l, Follows p (deliver l event))
    (hnote : ∀ l, Follows p (Run.emit (.listenerFailed (label l) event))) :
    ∀ ls : List α, Follows p (Run.dispatch label deliver event ls)
  | [] => give ()
  | l :: rest =>
      (contained (hdeliver l) (hnote l)).bind fun _ => dispatch hdeliver hnote rest

end Follows

/-- A delivery that halts only in faults returns once they are noted. -/
theorem contained_ok
    {label : α → String}
    {deliver : α → Event → Run S Unit}
    {event : Event}
    {l : α}
    {s : S}
    (h : ∀ k, (deliver l event s).result = .error k → k.isFault = true) :
    (contained label deliver event l s).result = .ok () := by
  unfold contained
  cases hr : (deliver l event s).result with
  | ok u =>
      rw [handle_of_ok hr]
  | error k =>
      have hfault := h k hr
      rw [handle_of_error hr]
      cases k with
      | fault f =>
          rfl
      | exit status =>
          cases hfault

end Run

end AcceptorHost
