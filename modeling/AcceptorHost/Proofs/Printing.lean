import AcceptorHost.Console.EventPrinter
import AcceptorHost.Proofs.Setbacks
import Mathlib.Data.List.Destutter

/-!
# What a printer of events prints

A state on the console is a device event or a bill in escrow, which is known by its name as
it is shown.  What is due speaks of the states that were told since the last failure of the
link, and the printer remembers one label.  Labels tell states apart, so what is printed is
what is due, however the events are mixed; between two failures the states that are printed
are those that are told, with repetitions in a row taken out.
-/

namespace AcceptorHost

theorem DeviceEvent.label_injective :
    Function.Injective label := by
  have hall : ∀ a ∈ all, ∀ b ∈ all, a.label = b.label → a = b := by decide
  exact fun a b => hall a (mem_all a) b (mem_all b)

/-- What tells states on the console apart. -/
inductive StateKey where
  /-- The acceptor reports a state or a condition. -/
  | device (kind : DeviceEvent)
  /-- A bill is held in escrow whose name is shown so. -/
  | escrow (shown : String)
  deriving DecidableEq, Repr

namespace StateKey

/-- The label by which a printer remembers a state. -/
def label : StateKey → String
  | .device kind => kind.label
  | .escrow shown => "Escrowed:" ++ shown

/-- No device event has the label of a bill in escrow. -/
theorem label_device_ne_label_escrow
    (kind : DeviceEvent)
    (shown : String) :
    (device kind).label ≠ (escrow shown).label := by
  have hall : ∀ k ∈ DeviceEvent.all, ¬ "Escrowed:".toList <+: k.label.toList := by decide
  intro h
  refine hall kind (DeviceEvent.mem_all kind) ⟨shown.toList, ?_⟩
  exact (congrArg String.toList h).trans String.toList_append |>.symm

theorem label_injective :
    Function.Injective label := by
  rintro (kind | shown) (other | text) h
  · exact congrArg device (DeviceEvent.label_injective h)
  · exact absurd h (label_device_ne_label_escrow kind text)
  · exact absurd h.symm (label_device_ne_label_escrow other shown)
  · have htexts := congrArg String.toList h
    simp only [label, String.toList_append, List.append_cancel_left_eq] at htexts
    exact congrArg escrow (String.toList_inj.mp htexts)

end StateKey

namespace Event

/-- The key of an event that is a state. -/
def stateKey? : Event → Option StateKey
  | .device kind _ => some (.device kind)
  | .escrowed name _ => some (.escrow name.display)
  | _ => none

/-- The key of the last state since the last failure of the link. -/
def lastKey (before : List Event) : Option StateKey :=
  (before.reverse.takeWhile fun e => !e.isAlarm).findSome? stateKey?

theorem lastKey_concat
    (before : List Event)
    (e : Event) :
    lastKey (before ++ [e]) = if e.isAlarm then none else e.stateKey?.or (lastKey before) := by
  unfold lastKey
  rw [List.reverse_append, List.reverse_singleton, List.singleton_append, List.takeWhile_cons]
  cases halarm : e.isAlarm with
  | true =>
      simp
  | false =>
      cases hkey : e.stateKey? <;> simp [hkey]

/-- A state is no failure of the link. -/
theorem isAlarm_of_stateKey?
    {e : Event}
    {key : StateKey}
    (h : e.stateKey? = some key) :
    e.isAlarm = false := by
  cases e with
  | connectionFailure count =>
      cases h
  | _ =>
      rfl

/-- After a state its key is the last one. -/
theorem lastKey_concat_of_stateKey?
    {e : Event}
    {key : StateKey}
    (before : List Event)
    (h : e.stateKey? = some key) :
    lastKey (before ++ [e]) = some key := by
  rw [lastKey_concat, isAlarm_of_stateKey? h, h]
  rfl

/-- The last key stays while no failure and no other state is told. -/
theorem lastKey_append_of_same
    {before es : List Event}
    {key : StateKey}
    (h : lastKey before = some key)
    (hes : ∀ e ∈ es, e.isAlarm = false ∧ ∀ other, e.stateKey? = some other → other = key) :
    lastKey (before ++ es) = some key := by
  induction es generalizing before with
  | nil =>
      rwa [List.append_nil]
  | cons e rest ih =>
      obtain ⟨⟨halarm, hkey⟩, hrest⟩ := List.forall_mem_cons.mp hes
      rw [List.append_cons]
      refine ih ?_ hrest
      rw [lastKey_concat, halarm, h]
      cases he : e.stateKey? with
      | none =>
          rfl
      | some other =>
          rw [hkey other he]
          rfl

/-- While no state is told the last key stays or is forgotten. -/
theorem lastKey_append_of_stateless
    {es : List Event}
    (before : List Event)
    (hes : ∀ e ∈ es, e.stateKey? = none) :
    lastKey (before ++ es) = lastKey before ∨ lastKey (before ++ es) = none := by
  induction es generalizing before with
  | nil =>
      rw [List.append_nil]
      exact .inl rfl
  | cons e rest ih =>
      obtain ⟨hkey, hrest⟩ := List.forall_mem_cons.mp hes
      have hlast := lastKey_concat before e
      rw [hkey, Option.none_or] at hlast
      rw [List.append_cons]
      rcases ih (before ++ [e]) hrest with hsame | hnone
      · rw [hsame, hlast]
        split
        · exact .inr rfl
        · exact .inl rfl
      · exact .inr hnone

/-- Where the key of a state is not the last one any more, a failure or another state came. -/
theorem exists_change_of_lastKey_ne
    {a : Event}
    {key : StateKey}
    (before : List Event)
    {between : List Event}
    (ha : a.stateKey? = some key)
    (h : lastKey (before ++ a :: between) ≠ some key) :
    ∃ e ∈ between, e.isAlarm = true ∨ ∃ other, e.stateKey? = some other ∧ other ≠ key := by
  refine Decidable.byContradiction fun hnone => h ?_
  rw [List.append_cons]
  refine lastKey_append_of_same (lastKey_concat_of_stateKey? before ha) fun e he => ⟨?_, ?_⟩
  · exact Bool.eq_false_iff.mpr fun halarm => hnone ⟨e, he, .inl halarm⟩
  · intro other hother
    exact Decidable.byContradiction fun hdiffer => hnone ⟨e, he, .inr ⟨other, hother, hdiffer⟩⟩

/-- After a state and no other, no other key is the last one. -/
theorem lastKey_ne_of_stateless
    {a : Event}
    {key other : StateKey}
    (before : List Event)
    {between : List Event}
    (ha : a.stateKey? = some key)
    (hdiffer : key ≠ other)
    (hbetween : ∀ e ∈ between, e.stateKey? = none) :
    lastKey (before ++ a :: between) ≠ some other := by
  have hkey := lastKey_concat_of_stateKey? before ha
  rw [List.append_cons]
  rcases lastKey_append_of_stateless (before ++ [a]) hbetween with hlast | hlast
  · rw [hlast, hkey]
    exact fun hsame => hdiffer (Option.some.inj hsame)
  · rw [hlast]
    exact (Option.some_ne_none other).symm

/-- At the beginning and after a failure there is no last key. -/
theorem lastKey_eq_none
    {before : List Event}
    (h : ∀ e ∈ before.getLast?, e.isAlarm = true) :
    lastKey before = none := by
  rcases List.eq_nil_or_concat before with rfl | ⟨front, e, rfl⟩
  · rfl
  · rw [List.concat_eq_append] at h ⊢
    rw [lastKey_concat, if_pos (h e (by simp))]

end Event

namespace EventPrinter

theorem label?_eq
    (e : Event) :
    label? e = e.stateKey?.map StateKey.label := by
  cases e <;> rfl

/-! ## One event -/

variable {p : EventPrinter} {e : Event}

/-- A state prints unless its label is remembered, and is remembered. -/
theorem hear_of_stateKey?
    {key : StateKey}
    (h : e.stateKey? = some key) :
    p.hear e =
      if p.lastLabel = some key.label then (p, none)
      else ({ p with lastLabel := some key.label }, some (line e)) := by
  have hlabel : label? e = some key.label := by rw [label?_eq, h, Option.map_some]
  rw [← hlabel]
  cases e with
  | device kind raw =>
      rfl
  | escrowed name raw =>
      rfl
  | _ =>
      cases h

/-- A failure of the link prints, and nothing is remembered after it. -/
theorem hear_of_isAlarm
    (h : e.isAlarm = true) :
    p.hear e = ({ p with lastLabel := none }, some (line e)) := by
  cases e with
  | connectionFailure count =>
      rfl
  | _ =>
      cases h

/-- Other events leave the printer as it is. -/
theorem hear_of_neither
    (hkey : e.stateKey? = none)
    (halarm : e.isAlarm = false) :
    (p.hear e).1 = p := by
  cases e with
  | connectionFailure count =>
      cases halarm
  | device kind raw =>
      cases hkey
  | escrowed name raw =>
      cases hkey
  | _ =>
      rfl

@[simp] theorem showTraffic_hear
    (p : EventPrinter)
    (e : Event) :
    (p.hear e).1.showTraffic = p.showTraffic := by
  cases hkey : e.stateKey? with
  | some key =>
      rw [hear_of_stateKey? hkey]
      split <;> rfl
  | none =>
      cases halarm : e.isAlarm with
      | true =>
          rw [hear_of_isAlarm halarm]
      | false =>
          rw [hear_of_neither hkey halarm]

/-! ## Rows of events -/

/-- The printer after a row of events. -/
def after (p : EventPrinter) (es : List Event) : EventPrinter :=
  es.foldl (fun q e => (q.hear e).1) p

/-- What each of a row of events prints. -/
def outputs (p : EventPrinter) (es : List Event) : List (Option String) :=
  (p.hearAll es).map Prod.snd

@[simp] theorem outputs_cons
    (p : EventPrinter)
    (e : Event)
    (rest : List Event) :
    p.outputs (e :: rest) = (p.hear e).2 :: (p.hear e).1.outputs rest := rfl

theorem outputs_append
    (p : EventPrinter)
    (es fs : List Event) :
    p.outputs (es ++ fs) = p.outputs es ++ (p.after es).outputs fs := by
  induction es generalizing p with
  | nil =>
      rfl
  | cons e rest ih =>
      rw [List.cons_append, outputs_cons, outputs_cons, ih, List.cons_append]
      rfl

@[simp] theorem length_outputs
    (p : EventPrinter)
    (es : List Event) :
    (p.outputs es).length = es.length := by
  induction es generalizing p with
  | nil =>
      rfl
  | cons e rest ih =>
      rw [outputs_cons, List.length_cons, List.length_cons, ih]

/-- What a part of a row prints, it prints to the printer that heard what is before it. -/
theorem outputs_part
    (p : EventPrinter)
    (before during rest : List Event) :
    ((p.outputs (before ++ during ++ rest)).drop before.length).take during.length =
      (p.after before).outputs during := by
  rw [List.append_assoc, outputs_append, outputs_append, List.drop_left' (length_outputs _ _),
    List.take_left' (length_outputs _ _)]

@[simp] theorem showTraffic_after
    (p : EventPrinter)
    (es : List Event) :
    (p.after es).showTraffic = p.showTraffic := by
  induction es generalizing p with
  | nil =>
      rfl
  | cons e rest ih =>
      exact (ih (p.hear e).1).trans (showTraffic_hear p e)

/-- A printer that remembers the label of a key or of none remembers no other label. -/
theorem lastLabel_eq_iff
    {memory : Option StateKey}
    (h : p.lastLabel = memory.map StateKey.label)
    (key : StateKey) :
    p.lastLabel = some key.label ↔ memory = some key := by
  rw [h]
  exact (Option.map_injective StateKey.label_injective).eq_iff (b := some key)

/-- A printer remembers the last state since the last failure of the link. -/
def Remembers (p : EventPrinter) (before : List Event) : Prop :=
  p.lastLabel = (Event.lastKey before).map StateKey.label

theorem remembers_fresh
    (showTraffic : Bool) :
    (fresh showTraffic).Remembers [] := rfl

theorem Remembers.hear
    {before : List Event}
    (h : p.Remembers before)
    (e : Event) :
    (p.hear e).1.Remembers (before ++ [e]) := by
  unfold Remembers
  rw [Event.lastKey_concat]
  cases halarm : e.isAlarm with
  | true =>
      rw [hear_of_isAlarm halarm]
      rfl
  | false =>
      cases hkey : e.stateKey? with
      | none =>
          rw [hear_of_neither hkey halarm]
          exact h
      | some key =>
          rw [hear_of_stateKey? hkey]
          split
          · rename_i hsame
            exact hsame
          · rfl

theorem Remembers.after
    {before : List Event}
    (h : p.Remembers before)
    (es : List Event) :
    (p.after es).Remembers (before ++ es) := by
  induction es generalizing p before with
  | nil =>
      rwa [List.append_nil]
  | cons e rest ih =>
      rw [List.append_cons]
      exact ih (h.hear e)

/-! ## What is due -/

/-- What an event that is told after others has to print. -/
def due (showTraffic : Bool) (before : List Event) (e : Event) : Option String :=
  match e with
  | .credit _ _ | .connectionFailure _ => some (line e)
  | .traffic _ _ => if showTraffic then some (line e) else none
  | .foreign _ => none
  | .escrowed _ _ | .device _ _ =>
      if Event.lastKey before = e.stateKey? then none else some (line e)

theorem due_of_stateKey?
    (showTraffic : Bool)
    (before : List Event)
    {key : StateKey}
    (h : e.stateKey? = some key) :
    due showTraffic before e = if Event.lastKey before = some key then none else some (line e) := by
  rw [← h]
  cases e with
  | device kind raw =>
      rfl
  | escrowed name raw =>
      rfl
  | _ =>
      cases h

/-- A printer that remembers what was told prints what is due. -/
theorem Remembers.prints
    {before : List Event}
    (h : p.Remembers before)
    (e : Event) :
    (p.hear e).2 = due p.showTraffic before e := by
  cases hkey : e.stateKey? with
  | some key =>
      have hsame := lastLabel_eq_iff h key
      rw [hear_of_stateKey? hkey, due_of_stateKey? _ _ hkey, if_congr hsame rfl rfl]
      split <;> rfl
  | none =>
      cases e with
      | device kind raw =>
          cases hkey
      | escrowed name raw =>
          cases hkey
      | _ =>
          rfl

/-- In a row of events each prints what is due after those before it. -/
theorem getElem?_outputs_fresh
    (showTraffic : Bool)
    (before : List Event)
    (e : Event)
    (rest : List Event) :
    ((fresh showTraffic).outputs (before ++ e :: rest))[before.length]? =
      some (due showTraffic before e) := by
  have hremembers : ((fresh showTraffic).after before).Remembers before :=
    (remembers_fresh showTraffic).after before
  have hprints := hremembers.prints e
  rw [showTraffic_after] at hprints
  rw [outputs_append, List.getElem?_append_right (by rw [length_outputs]), length_outputs,
    Nat.sub_self, outputs_cons, hprints]
  rfl

/-! ## Stretches without a failure -/

/-- The keys of the states that print, among events and what each of them prints. -/
def printedKeys (es : List Event) (out : List (Option String)) : List StateKey :=
  (es.zip out).filterMap fun r => if r.2.isSome then r.1.stateKey? else none

/-- Without a failure the states that print are those that are told, repetitions in a row apart;
the state that is remembered counts as the one before them. -/
theorem destutter_printedKeys
    {memory : Option StateKey}
    {es : List Event}
    (hmemory : p.lastLabel = memory.map StateKey.label)
    (hes : ∀ e ∈ es, e.isAlarm = false) :
    memory.toList ++ printedKeys es (p.outputs es) =
      (memory.toList ++ es.filterMap Event.stateKey?).destutter (· ≠ ·) := by
  induction es generalizing p memory with
  | nil =>
      cases memory <;> rfl
  | cons e rest ih =>
      obtain ⟨halarm, hrest⟩ := List.forall_mem_cons.mp hes
      cases hkey : e.stateKey? with
      | none =>
          have hsame := hear_of_neither (p := p) hkey halarm
          have hnothing : printedKeys (e :: rest) (p.outputs (e :: rest)) =
              printedKeys rest (p.outputs rest) := by
            simp [printedKeys, hkey, hsame]
          rw [hnothing, List.filterMap_cons_none hkey]
          exact ih hmemory hrest
      | some next =>
          have hhear := hear_of_stateKey? (p := p) hkey
          by_cases hrepeated : memory = some next
          · rw [if_pos ((lastLabel_eq_iff hmemory next).mpr hrepeated)] at hhear
            subst hrepeated
            have hnothing : printedKeys (e :: rest) (p.outputs (e :: rest)) =
                printedKeys rest (p.outputs rest) := by
              simp [printedKeys, hhear]
            rw [hnothing, List.filterMap_cons_some hkey, ih hmemory hrest]
            exact (List.destutter'_cons_neg _ (not_not.mpr rfl)).symm
          · rw [if_neg fun h => hrepeated ((lastLabel_eq_iff hmemory next).mp h)] at hhear
            have hprinted : printedKeys (e :: rest) (p.outputs (e :: rest)) =
                next :: printedKeys rest (outputs ⟨p.showTraffic, some next.label⟩ rest) := by
              simp [printedKeys, hhear, hkey]
            have hlater : next :: printedKeys rest (outputs ⟨p.showTraffic, some next.label⟩ rest) =
                (next :: rest.filterMap Event.stateKey?).destutter (· ≠ ·) :=
              @ih ⟨p.showTraffic, some next.label⟩ (some next) rfl hrest
            rw [hprinted, List.filterMap_cons_some hkey, hlater]
            cases memory with
            | none =>
                rfl
            | some last =>
                exact (List.destutter'_cons_pos _ fun h => hrepeated (congrArg some h)).symm

/-! ## The whole row -/

/-- What a row of events prints is the row with its repetitions taken out. -/
structure Destutters (showTraffic : Bool) (es : List Event) (out : List (Option String)) :
    Prop where
  /-- Every event prints what is due after those before it. -/
  rule : ∀ before e rest, es = before ++ e :: rest →
    out[before.length]? = some (due showTraffic before e)
  /-- A state prints after one with its key only if a failure or another state is between. -/
  noRepeat : ∀ before a between b rest key text,
    es = before ++ a :: between ++ b :: rest →
    a.stateKey? = some key → b.stateKey? = some key →
    out[(before ++ a :: between).length]? = some (some text) →
    ∃ e ∈ between, e.isAlarm = true ∨ ∃ other, e.stateKey? = some other ∧ other ≠ key
  /-- A state whose key differs from that of the state before it prints. -/
  noLoss : ∀ before a between b rest key other,
    es = before ++ a :: between ++ b :: rest →
    a.stateKey? = some key → b.stateKey? = some other → key ≠ other →
    (∀ e ∈ between, e.stateKey? = none) →
    out[(before ++ a :: between).length]? = some (some (line b))
  /-- From the beginning or a failure up to the next failure, the states that print are those that
  are told, repetitions in a row apart. -/
  stretch : ∀ before during rest,
    es = before ++ during ++ rest →
    (∀ e ∈ before.getLast?, e.isAlarm = true) → (∀ e ∈ during, e.isAlarm = false) →
    printedKeys during ((out.drop before.length).take during.length) =
      (during.filterMap Event.stateKey?).destutter (· ≠ ·)

/--
A fresh printer prints a row of events with its repetitions taken out, whatever the events
are and whether it shows traffic or not.  Bills in escrow whose names are texts have one key
exactly when they have one name.
-/
theorem prints_changes
    (showTraffic : Bool)
    (es : List Event) :
    Destutters showTraffic es ((fresh showTraffic).outputs es)
      ∧ ∀ name other raw text,
        (Event.escrowed (.text name) raw).stateKey? = (Event.escrowed (.text other) text).stateKey?
          ↔ name = other := by
  refine ⟨⟨?_, ?_, ?_, ?_⟩, fun name other raw text => by simp [Event.stateKey?, Value.display]⟩
  · rintro before e rest rfl
    exact getElem?_outputs_fresh showTraffic before e rest
  · rintro before a between b rest key text rfl ha hb hprinted
    refine Event.exists_change_of_lastKey_ne before ha fun hlast => ?_
    rw [getElem?_outputs_fresh, due_of_stateKey? _ _ hb, if_pos hlast] at hprinted
    cases hprinted
  · rintro before a between b rest key other rfl ha hb hdiffer hbetween
    have hlast := Event.lastKey_ne_of_stateless before ha hdiffer hbetween
    rw [getElem?_outputs_fresh, due_of_stateKey? _ _ hb, if_neg hlast]
  · rintro before during rest rfl hbefore hduring
    have hmemory := (remembers_fresh showTraffic).after before
    rw [List.nil_append, Remembers, Event.lastKey_eq_none hbefore] at hmemory
    rw [outputs_part]
    exact destutter_printedKeys hmemory hduring

/-- The lines of a printer that shows traffic. -/
example :
    (fresh true).outputs
        [.escrowed (.text "$5") "raw", .escrowed (.text "$5") "raw", .device .idling "raw",
          .credit (.text "$5") "raw", .connectionFailure 3, .device .idling "raw",
          .device .cassetteRemoved "raw", .traffic .received "02 0B"] =
      [some "[EVENT] ESCROWED ($5)", none, some "[EVENT] Idling",
        some "[CREDIT] $5", some "[COMMS] no response for 3 polls", some "[EVENT] Idling",
        some "[EVENT] CASSETTE REMOVED", some "[RX] 02 0B"] := by
  decide +kernel

end EventPrinter

end AcceptorHost
