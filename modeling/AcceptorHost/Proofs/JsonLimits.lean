import AcceptorHost.Proofs.Loading

/-!
# What the limits of a reader take away

The limits of a reader bound the digits of an integer and the depth of nesting, and do nothing
else.  A reader with limits finds what a reader without them finds, or says which limit a text
exceeds, and a reader without limits has nothing to say of a text but that it is no JSON.  So
settings that are loaded under some limits are those that are loaded without any.
-/

namespace AcceptorHost

namespace Json

variable {α β : Type}

/-- A reading fails since a limit is exceeded. -/
def Beyond (x : Except Flaw α) : Prop := ∃ flaw, x = .error flaw ∧ flaw ≠ .malformed

theorem not_beyond_ok
    (a : α) :
    ¬ Beyond (.ok a) := by
  rintro ⟨flaw, h, -⟩
  cases h

/-- One reading is another, which exceeds no limit, unless it exceeds one itself. -/
structure Within (x y : Except Flaw α) : Prop where
  agrees : x = y ∨ Beyond x
  unlimited : ¬ Beyond y

namespace Within

theorem ok
    (a : α) :
    Within (.ok a) (.ok a) := ⟨.inl rfl, not_beyond_ok a⟩

theorem malformed :
    Within (.error .malformed : Except Flaw α) (.error .malformed) := by
  refine ⟨.inl rfl, ?_⟩
  rintro ⟨flaw, h, hflaw⟩
  exact hflaw (Except.error.inj h).symm

theorem expect
    (x : Option α) :
    Within (Json.expect x) (Json.expect x) := by
  cases x with
  | none => exact .malformed
  | some a => exact .ok a

/-- Where two readings agree up to limits, and so do those that follow, the whole ones do. -/
theorem bind
    {x y : Except Flaw α}
    {f g : α → Except Flaw β}
    (h : Within x y)
    (hnext : ∀ a, Within (f a) (g a)) :
    Within (x.bind f) (y.bind g) := by
  obtain ⟨hagrees, hunlimited⟩ := h
  refine ⟨?_, ?_⟩
  · rcases hagrees with rfl | ⟨flaw, rfl, hflaw⟩
    · cases x with
      | ok a => exact (hnext a).agrees
      | error flaw => exact .inl rfl
    · exact .inr ⟨flaw, rfl, hflaw⟩
  · cases y with
    | ok b => exact (hnext b).unlimited
    | error flaw =>
        rintro ⟨_, h, hflaw⟩
        cases h
        exact hunlimited ⟨flaw, rfl, hflaw⟩

theorem map
    {x y : Except Flaw α}
    (h : Within x y)
    (f : α → β) :
    Within (x.map f) (y.map f) := by
  have hmap (z : Except Flaw α) : z.map f = z.bind fun a => .ok (f a) := by
    cases z <;> rfl
  rw [hmap, hmap]
  exact h.bind fun a => .ok (f a)

end Within

/-! ## The parts of the reader -/

section Parts

variable (limits : Limits)

theorem within_integer
    (negative : Bool)
    (ds : List Char) :
    Within (integer limits negative ds) (integer .none negative ds) := by
  refine ⟨?_, not_beyond_ok _⟩
  unfold integer
  split
  · exact .inr ⟨_, rfl, by simp⟩
  · exact .inl rfl

theorem within_unsigned
    (negative : Bool)
    (cs : List Char) :
    Within (unsigned limits negative cs) (unsigned .none negative cs) := by
  unfold unsigned
  split
  · exact .malformed
  · dsimp only
    split
    · exact (within_integer limits negative _).map _
    · exact .ok _

theorem within_scalar
    (cs : List Char) :
    Within (scalar limits cs) (scalar .none cs) := by
  unfold scalar
  split
  case h_7 => exact within_unsigned limits true _
  case h_8 => exact within_unsigned limits false _
  all_goals exact .ok _

theorem within_deeper
    (depth : Nat) :
    Within (deeper limits depth) (deeper .none depth) := by
  refine ⟨?_, not_beyond_ok _⟩
  unfold deeper
  split
  · exact .inr ⟨.depth, rfl, by simp⟩
  · exact .inl rfl

mutual

theorem within_value (fuel depth : Nat) (cs : List Char) :
    Within (value limits fuel depth cs) (value .none fuel depth cs) :=
  match fuel with
  | 0 => .malformed
  | fuel + 1 => by
      unfold value
      split
      · exact (Within.expect _).map _
      · refine (within_deeper limits depth).bind fun depth => ?_
        split
        · exact .ok _
        · exact (within_items fuel depth _).map _
      · refine (within_deeper limits depth).bind fun depth => ?_
        split
        · exact .ok _
        · exact (within_members fuel depth [] _).map _
      · exact within_scalar limits _
termination_by structural fuel

theorem within_items (fuel depth : Nat) (cs : List Char) :
    Within (items limits fuel depth cs) (items .none fuel depth cs) :=
  match fuel with
  | 0 => .malformed
  | fuel + 1 => by
      unfold items
      refine (within_value fuel depth cs).bind fun r => ?_
      split
      · exact .ok _
      · exact (within_items fuel depth _).map _
      · exact .malformed
termination_by structural fuel

theorem within_members (fuel depth : Nat) (fields : List (String × Value)) (cs : List Char) :
    Within (members limits fuel depth fields cs) (members .none fuel depth fields cs) :=
  match fuel with
  | 0 => .malformed
  | fuel + 1 => by
      unfold members
      split
      · refine (Within.expect _).bind fun name => ?_
        split
        · refine (within_value fuel depth _).bind fun r => ?_
          dsimp only
          split
          · exact .ok _
          · exact within_members fuel depth _ _
          · exact .malformed
        · exact .malformed
      · exact .malformed
termination_by structural fuel

end

/-- A text is read as without limits, or exceeds one; without limits it exceeds none. -/
theorem within_parse
    (s : String) :
    Within (parse limits s) (parse .none s) := by
  refine (within_value limits _ 0 _).bind fun r => ?_
  split
  · exact .ok _
  · exact .malformed

end Parts

end Json

/-! ## The settings of a file -/

/-- Where one run returns, another does the same. -/
def Run.ExtendsTo {S α : Type} (x y : Run S α) : Prop :=
  ∀ start a, (x start).result = .ok a → y start = x start

namespace Run.ExtendsTo

variable {S α β : Type}

theorem refl
    (x : Run S α) :
    ExtendsTo x x := fun _ _ _ => rfl

theorem of_error
    {x : Run S α}
    {h : Halt}
    (hx : ∀ start, (x start).result = .error h)
    (y : Run S α) :
    ExtendsTo x y := by
  intro start a ha
  cases (hx start).symm.trans ha

theorem bind
    {x y : Run S α}
    {f g : α → Run S β}
    (h : ExtendsTo x y)
    (hnext : ∀ a, ExtendsTo (f a) (g a)) :
    ExtendsTo (x >>= f) (y >>= g) := by
  intro start b hb
  obtain ⟨a, ha, hb⟩ := Run.ok_of_bind hb
  have hy := h start a ha
  rw [bind_of_ok ha, bind_of_ok (by rw [hy]; exact ha), hy, hnext a _ b hb]

end Run.ExtendsTo

/-- Without limits the only flaw of a text is that it is no JSON. -/
theorem FileContent.malformed_of_unlimited
    {file : FileContent}
    {flaw : Json.Flaw}
    (h : file.read? .none = some (.error flaw)) :
    flaw = .malformed := by
  cases file with
  | bytes bs =>
      obtain ⟨text, -, hparse⟩ := Option.map_eq_some_iff.mp h
      refine Decidable.byContradiction fun hflaw => ?_
      exact (Json.within_parse .none _).unlimited ⟨flaw, hparse, hflaw⟩
  | _ =>
      cases h

namespace Settings

variable {S : Type}

theorem extends_whole
    (limit : Option Nat)
    (v : Value) :
    Run.ExtendsTo (Run.ofExcept (v.whole limit) : Run S Int) (Run.ofExcept (v.whole none)) := by
  cases v with
  | text s =>
      simp only [Value.whole]
      cases Numeral.parse s with
      | none => exact .refl _
      | some n =>
          cases Numeral.excess? limit (Numeral.size s) with
          | none => exact .refl _
          | some most => exact .of_error (fun _ => rfl) _
  | float x => cases x <;> exact .refl _
  | _ => exact .refl _

theorem extends_intField
    (limits : Json.Limits)
    (fields : List (String × Value))
    (name : String)
    (usual : Int) :
    Run.ExtendsTo (intField limits fields name usual : Run S Int)
      (intField .none fields name usual) := by
  unfold intField
  split
  · exact .refl _
  · exact extends_whole limits.digits _

theorem extends_ofBlock
    (limits : Json.Limits)
    (name : Value)
    (fields : List (String × Value)) :
    Run.ExtendsTo (ofBlock limits name fields : Run S Settings) (ofBlock .none name fields) := by
  refine (extends_intField limits fields _ _).bind fun _ => ?_
  refine (extends_intField limits fields _ _).bind fun _ => ?_
  refine (extends_intField limits fields _ _).bind fun _ => ?_
  refine (extends_intField limits fields _ _).bind fun _ => ?_
  refine (extends_intField limits fields _ _).bind fun _ => ?_
  exact .refl _

theorem extends_ofValue
    (limits : Json.Limits)
    (path : String)
    (v : Value) :
    Run.ExtendsTo (ofValue limits path v : Run S Settings) (ofValue .none path v) := by
  unfold ofValue
  split
  · split
    · exact extends_ofBlock limits _ _
    · exact .refl _
  · exact .refl _

theorem extends_readValue
    (json : JsonLibrary)
    (refusal : String → String)
    (path : String)
    (file : FileContent) :
    Run.ExtendsTo (readValue json path file : Run S Value)
      (readValue ⟨.none, refusal⟩ path file) := by
  cases file with
  | missing => exact .refl _
  | directory => exact .refl _
  | bytes bs =>
      cases htext : String.fromUTF8? bs with
      | none =>
          simp only [readValue, htext]
          exact .refl _
      | some text =>
          simp only [readValue, htext]
          have hwithin := Json.within_parse json.limits
            (String.ofList (Text.uniformLines text.toList))
          cases hparse : Json.parse json.limits
              (String.ofList (Text.uniformLines text.toList)) with
          | error flaw =>
              obtain ⟨_, hhalts⟩ := exists_halt_refuseText json path _ flaw
              exact .of_error hhalts _
          | ok v =>
              rcases hparse ▸ hwithin.agrees with hagrees | hbeyond
              · rw [← hagrees]
                exact .refl _
              · exact absurd hbeyond (Json.not_beyond_ok v)

/-- Settings that are loaded under some limits are loaded without any, in the same way. -/
theorem load_of_limits
    {json : JsonLibrary}
    {path : String}
    {file : FileContent}
    {start : S}
    {s : Settings}
    (h : (load json path file start).result = .ok s)
    (refusal : String → String) :
    load ⟨.none, refusal⟩ path file start = load json path file start :=
  (extends_readValue json refusal path file).bind (extends_ofValue json.limits path) start s h

end Settings

end AcceptorHost
