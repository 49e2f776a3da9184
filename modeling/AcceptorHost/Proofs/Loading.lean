import AcceptorHost.Proofs.RunLaws
import AcceptorHost.Settings

/-!
# How the loading of a settings file ends

A file may be missing, no text, no JSON, no object, without its block, or hold values of any
kind.  Loading ends with settings, or with a report on the console and status one, or with a
fault that is not reported.  The last happens exactly where the file slips through what is
checked: a directory, bytes that are no text, a text beyond the limits of the reader, a value
that is no object, and a block in which a value that stands for a number has none, or in which
the names of the bills cannot be gone through.
-/

namespace AcceptorHost

namespace Run

variable {S α β : Type}

theorem give_bind
    (a : α)
    (f : α → Run S β) :
    Run.give a >>= f = f a := rfl

theorem fail_bind
    (h : Fault)
    (f : α → Run S β) :
    (Run.fail h : Run S α) >>= f = Run.fail h := rfl

end Run

/-- The JSON library of the examples: it sets no limits, and refuses every text in one way. -/
def JsonLibrary.unlimited : JsonLibrary := ⟨.none, fun _ => "Expecting value"⟩

/-- What is read of a file that is a text: the value that the text holds, or its flaw. -/
def FileContent.read? (limits : Json.Limits) : FileContent → Option (Except Json.Flaw Value)
  | .bytes bs =>
      (String.fromUTF8? bs).map fun text =>
        Json.parse limits (String.ofList (Text.uniformLines text.toList))
  | _ => none

/-- Of a file of a text the text is read, whose lines are made uniform. -/
theorem FileContent.read?_toUTF8
    (limits : Json.Limits)
    (text : String) :
    (bytes text.toUTF8).read? limits =
      some (Json.parse limits (String.ofList (Text.uniformLines text.toList))) := by
  have hback : String.fromUTF8? text.toUTF8 = some text := dif_pos text.isValidUTF8
  rw [read?, hback, Option.map_some]

namespace Settings

variable {S : Type} (json : JsonLibrary)

/-- A flaw ends the reading of a file as it should. -/
theorem readValue_of_flaw
    {file : FileContent}
    {flaw : Json.Flaw}
    (path : String)
    (h : file.read? json.limits = some (.error flaw)) :
    ∃ text, (readValue json path file : Run S Value) = refuseText json path text flaw := by
  cases file with
  | bytes bs =>
      obtain ⟨text, htext, hparse⟩ := Option.map_eq_some_iff.mp h
      refine ⟨String.ofList (Text.uniformLines text.toList), ?_⟩
      simp only [readValue, htext, hparse]
  | _ =>
      cases h

/-- A value is what the reading of its file gives. -/
theorem readValue_of_read?
    {file : FileContent}
    {v : Value}
    (path : String)
    (h : file.read? json.limits = some (.ok v)) :
    (readValue json path file : Run S Value) = Run.give v := by
  cases file with
  | bytes bs =>
      obtain ⟨text, htext, hparse⟩ := Option.map_eq_some_iff.mp h
      simp only [readValue, htext, hparse]
  | _ =>
      cases h

theorem load_of_read?
    {file : FileContent}
    {v : Value}
    (path : String)
    (h : file.read? json.limits = some (.ok v)) :
    (load json path file : Run S Settings) = ofValue json.limits path v := by
  rw [load, readValue_of_read? json path h, Run.give_bind]

/-! ## Files that slip through -/

/-- The fields of a block that stand for numbers. -/
def numberFields : List String :=
  ["baud_rate", "poll_interval_ms", "poll_retry_limit", "timeout_ms", "enabled_bills"]

/-- A block has a value for a number that is none, or has too many digits. -/
def NoNumber (limits : Json.Limits) (fields : List (String × Value)) (name : String) : Prop :=
  ∃ v f, Value.lookup name fields = some v ∧ v.whole limits.digits = .error f

/-- A block has a value for the names of the bills that cannot be gone through. -/
def NoNames (fields : List (String × Value)) : Prop :=
  ∃ v, Value.lookup "bill_names" fields = some v ∧ v.members? = none

/-- What is wrong with the value of a file and is not looked for. -/
inductive Misfit (limits : Json.Limits) (v : Value) : Prop
  /-- The value is no object. -/
  | unstructured
      (hv : ∀ fields, v ≠ .record fields)
  /-- A value in the block stands for a number and is none. -/
  | number
      {name : Value}
      {fields : List (String × Value)}
      {row : String}
      (hblock : block? v = some (name, fields))
      (hrow : row ∈ numberFields)
      (hnone : NoNumber limits fields row)
  /-- The value in the block for the names of the bills cannot be gone through. -/
  | names
      {name : Value}
      {fields : List (String × Value)}
      (hblock : block? v = some (name, fields))
      (hnone : NoNames fields)

/-- What is wrong with a file and is not looked for. -/
inductive Slips (limits : Json.Limits) : FileContent → Prop
  /-- A directory stands at the path. -/
  | directory :
      Slips limits .directory
  /-- The bytes are no text. -/
  | undecodable
      {bs : ByteArray}
      (h : String.fromUTF8? bs = none) :
      Slips limits (.bytes bs)
  /-- An integer of the text has too many digits, or its values are nested too deep. -/
  | beyond
      {file : FileContent}
      {flaw : Json.Flaw}
      (h : file.read? limits = some (.error flaw))
      (hflaw : flaw ≠ .malformed) :
      Slips limits file
  /-- The value of the file does not fit. -/
  | misfit
      {file : FileContent}
      {v : Value}
      (h : file.read? limits = some (.ok v))
      (hv : Misfit limits v) :
      Slips limits file

/-! ## Runs that end as they should, or slip -/

/-- The first line on the console reports an error, and the program ends with status one. -/
def Refused {α : Type} (r : Report S α) : Prop :=
  r.result = .error (.exit (.int 1))
    ∧ ∃ text, r.trace.lines.head? = some text ∧ "Error:".toList <+: text.toList

/-- There are settings, or an error is reported and the program ends with status one. -/
def EndsCleanly (r : Report S Settings) : Prop := (∃ s, r.result = .ok s) ∨ Refused r

/-- A run fails and says nothing if something is wrong; if not it ends cleanly. -/
def SlipsIf (wrong : Prop) (x : Run S Settings) : Prop :=
  wrong ∧ (∃ f, x = Run.fail f) ∨ ¬ wrong ∧ ∀ start, EndsCleanly (x start)

/-- Where a part converts a value or fails, and what follows it slips, the whole slips if
either does. -/
theorem SlipsIf.bind
    {α : Type}
    {wrong rest : Prop}
    {x : Run S α}
    {f : α → Run S Settings}
    (hx : wrong ∧ (∃ g, x = Run.fail g) ∨ ¬ wrong ∧ ∃ a, x = Run.give a)
    (hf : ∀ a, SlipsIf rest (f a)) :
    SlipsIf (wrong ∨ rest) (x >>= f) := by
  rcases hx with ⟨hwrong, g, rfl⟩ | ⟨hfits, a, rfl⟩
  · rw [Run.fail_bind]
    exact .inl ⟨.inl hwrong, g, rfl⟩
  · rw [Run.give_bind]
    rcases hf a with ⟨hrest, hfails⟩ | ⟨hrest, hends⟩
    · exact .inl ⟨.inr hrest, hfails⟩
    · exact .inr ⟨fun h => h.elim hfits hrest, hends⟩

/-! ## Reports on the console -/

theorem refuse_eq
    {α : Type}
    (texts : List String)
    (start : S) :
    (refuse texts : Run S α) start = ⟨texts.map .printed, .error (.exit (.int 1)), start⟩ := by
  induction texts with
  | nil =>
      rfl
  | cons line rest ih =>
      have hline : (Run.emit (.printed line) start).result = .ok () := rfl
      rw [refuse, Run.bind_of_ok hline]
      change Report.mk (.printed line :: (refuse rest start).trace) _ _ = _
      rw [ih, List.map_cons]
      exact congrArg (fun r : Report S α => Report.mk _ r.result r.state) ih

/-- A report whose first line names an error refuses. -/
theorem refused_refuse
    {α : Type}
    {line : String}
    (rest : List String)
    (h : "Error:".toList <+: line.toList)
    (start : S) :
    Refused ((refuse (line :: rest) : Run S α) start) := by
  rw [refuse_eq]
  exact ⟨rfl, line, rfl, h⟩

theorem refused_refuseFile
    {α : Type}
    (path words : String)
    (start : S) :
    Refused ((refuseFile path words : Run S α) start) := by
  refine refused_refuse _
    ⟨" Could not load or parse ".toList ++ path.toList ++ ". ".toList ++ words.toList, ?_⟩ start
  simp only [String.toList_append]
  rfl

/-- No flaw leads to a value. -/
theorem exists_halt_refuseText
    {α : Type}
    (json : JsonLibrary)
    (path text : String)
    (flaw : Json.Flaw) :
    ∃ h, ∀ start, (refuseText json path text flaw start : Report S α).result = .error h := by
  cases flaw with
  | malformed => exact ⟨_, fun start => (refused_refuseFile _ _ start).1⟩
  | digits limit count => exact ⟨_, fun _ => rfl⟩
  | depth => exact ⟨_, fun _ => rfl⟩

theorem refused_refuseBlock
    {α : Type}
    (path : String)
    (start : S) :
    Refused ((refuseBlock path : Run S α) start) := by
  refine refused_refuse _
    ⟨" an 'apex' block with 'port_name' is required in ".toList ++ path.toList ++ ".".toList, ?_⟩
    start
  simp only [String.toList_append]
  rfl

theorem refused_refuseNames
    {α : Type}
    (start : S) :
    Refused ((refuseNames : Run S α) start) :=
  refused_refuse [] (by decide) start

/-- What follows a refusal is not come to. -/
theorem Refused.bind
    {α β : Type}
    {x : Run S α}
    {start : S}
    (h : Refused (x start))
    (f : α → Run S β) :
    Refused ((x >>= f) start) := by
  rw [Run.bind_of_error h.1]
  exact ⟨rfl, h.2⟩

/-! ## The conversions of a block -/

theorem intField_fails_or_gives
    (limits : Json.Limits)
    (fields : List (String × Value))
    (name : String)
    (usual : Int) :
    NoNumber limits fields name
        ∧ (∃ f, (intField limits fields name usual : Run S Int) = Run.fail f) ∨
      ¬ NoNumber limits fields name
        ∧ ∃ n, (intField limits fields name usual : Run S Int) = Run.give n := by
  unfold intField NoNumber
  cases hlookup : Value.lookup name fields with
  | none =>
      exact .inr ⟨by simp, usual, rfl⟩
  | some v =>
      cases hwhole : v.whole limits.digits with
      | ok n =>
          exact .inr ⟨by simp [hwhole], n, congrArg Run.ofExcept hwhole⟩
      | error f =>
          exact .inl ⟨⟨v, f, rfl, hwhole⟩, f, congrArg Run.ofExcept hwhole⟩

theorem namesField_fails_or_gives
    (fields : List (String × Value)) :
    NoNames fields ∧ (∃ f, (namesField fields : Run S (List Value)) = Run.fail f) ∨
      ¬ NoNames fields ∧ ∃ names, (namesField fields : Run S (List Value)) = Run.give names := by
  unfold namesField NoNames
  cases hlookup : Value.lookup "bill_names" fields with
  | none =>
      exact .inr ⟨by simp, Codec.usualBillNames, rfl⟩
  | some v =>
      cases hmembers : v.members? with
      | none =>
          exact .inl ⟨⟨v, rfl, hmembers⟩, .wrongType, by simp only [hmembers]⟩
      | some names =>
          exact .inr ⟨by simp [hmembers], names, by simp only [hmembers]⟩

/-- A block slips if one of its values cannot be converted; a wrong count of names is reported. -/
theorem slipsIf_ofBlock
    (limits : Json.Limits)
    (name : Value)
    (fields : List (String × Value)) :
    SlipsIf ((∃ row ∈ numberFields, NoNumber limits fields row) ∨ NoNames fields)
      (ofBlock limits name fields : Run S Settings) := by
  have hfields : ((∃ row ∈ numberFields, NoNumber limits fields row) ∨ NoNames fields) =
      (NoNumber limits fields "baud_rate" ∨ NoNumber limits fields "poll_interval_ms" ∨
        NoNumber limits fields "poll_retry_limit" ∨ NoNumber limits fields "timeout_ms" ∨
        NoNumber limits fields "enabled_bills" ∨ NoNames fields ∨ False) := by
    simp [numberFields, or_assoc]
  rw [hfields]
  refine SlipsIf.bind (intField_fails_or_gives _ _ _ _) fun baudRate => ?_
  refine SlipsIf.bind (intField_fails_or_gives _ _ _ _) fun pollIntervalMs => ?_
  refine SlipsIf.bind (intField_fails_or_gives _ _ _ _) fun pollRetryLimit => ?_
  refine SlipsIf.bind (intField_fails_or_gives _ _ _ _) fun timeoutMs => ?_
  refine SlipsIf.bind (intField_fails_or_gives _ _ _ _) fun enabledBills => ?_
  refine SlipsIf.bind (namesField_fails_or_gives _) fun billNames => ?_
  refine .inr ⟨not_false, fun start => ?_⟩
  dsimp only
  split
  · exact .inl ⟨_, rfl⟩
  · exact .inr (refused_refuseNames start)

/-- A value slips if it does not fit; an object without its block is reported. -/
theorem slipsIf_ofValue
    (limits : Json.Limits)
    (path : String)
    (v : Value) :
    SlipsIf (Misfit limits v) (ofValue limits path v : Run S Settings) := by
  cases v with
  | record members =>
      have hrecord : ¬ ∀ fields, Value.record members ≠ .record fields := fun h => h members rfl
      cases hblock : block? (.record members) with
      | none =>
          refine .inr ⟨fun h => ?_, fun start => .inr ?_⟩
          · cases h with
            | unstructured hv =>
                exact hrecord hv
            | number hsome hrow hnone =>
                cases hblock.symm.trans hsome
            | names hsome hnone =>
                cases hblock.symm.trans hsome
          · simp only [ofValue, hblock]
            exact refused_refuseBlock path start
      | some block =>
          have hmisfit : Misfit limits (.record members) ↔
              (∃ row ∈ numberFields, NoNumber limits block.2 row) ∨ NoNames block.2 := by
            constructor
            · rintro (hv | ⟨hsome, hrow, hnone⟩ | ⟨hsome, hnone⟩)
              · exact absurd hv hrecord
              · cases hblock.symm.trans hsome
                exact .inl ⟨_, hrow, hnone⟩
              · cases hblock.symm.trans hsome
                exact .inr hnone
            · rintro (⟨row, hrow, hnone⟩ | hnone)
              · exact .number hblock hrow hnone
              · exact .names hblock hnone
          simp only [ofValue, hblock, hmisfit]
          exact slipsIf_ofBlock limits block.1 block.2
  | _ =>
      exact .inl ⟨.unstructured (by simp), .noSuchMember, rfl⟩

/-- A file that holds a value slips exactly if the value does not fit. -/
theorem slips_iff_misfit
    {limits : Json.Limits}
    {file : FileContent}
    {v : Value}
    (h : file.read? limits = some (.ok v)) :
    Slips limits file ↔ Misfit limits v := by
  refine ⟨fun hslips => ?_, .misfit h⟩
  cases hslips with
  | directory =>
      cases h
  | undecodable hnone =>
      simp [FileContent.read?, hnone] at h
  | beyond hflaw =>
      cases h.symm.trans hflaw
  | misfit hvalue hv =>
      cases h.symm.trans hvalue
      exact hv

/-- A file of a text with a flaw slips exactly if the flaw is that a limit is exceeded. -/
theorem slips_iff_beyond
    {limits : Json.Limits}
    {file : FileContent}
    {flaw : Json.Flaw}
    (h : file.read? limits = some (.error flaw)) :
    Slips limits file ↔ flaw ≠ .malformed := by
  refine ⟨fun hslips => ?_, .beyond h⟩
  cases hslips with
  | directory =>
      cases h
  | undecodable hnone =>
      simp [FileContent.read?, hnone] at h
  | beyond hsome hflaw =>
      cases h.symm.trans hsome
      exact hflaw
  | misfit hvalue hv =>
      cases h.symm.trans hvalue

/-- Loading slips if something is wrong that is not looked for; a missing file and one that
is no JSON are reported. -/
theorem slipsIf_load
    (path : String)
    (file : FileContent) :
    SlipsIf (Slips json.limits file) (load json path file : Run S Settings) := by
  cases hread : file.read? json.limits with
  | some r =>
      cases r with
      | ok v =>
          rw [load_of_read? json path hread, slips_iff_misfit hread]
          exact slipsIf_ofValue json.limits path v
      | error flaw =>
          obtain ⟨text, hvalue⟩ := readValue_of_flaw (S := S) json path hread
          rw [load, hvalue, slips_iff_beyond hread]
          cases flaw with
          | malformed =>
              exact .inr ⟨fun h => h rfl, fun start => .inr ((refused_refuseFile _ _ _).bind _)⟩
          | digits limit count =>
              exact .inl ⟨by simp, .tooManyDigits limit count, rfl⟩
          | depth =>
              exact .inl ⟨by simp, .nestedTooDeep, rfl⟩
  | none =>
      cases file with
      | missing =>
          refine .inr ⟨fun h => ?_, fun start => .inr ((refused_refuseFile _ _ _).bind _)⟩
          cases h with
          | beyond hsome =>
              cases hsome
          | misfit hsome =>
              cases hsome
      | directory =>
          exact .inl ⟨.directory, .isDirectory, rfl⟩
      | bytes bs =>
          have htext : String.fromUTF8? bs = none := Option.map_eq_none_iff.mp hread
          refine .inl ⟨.undecodable htext, .undecodable, ?_⟩
          simp only [load, readValue, htext, Run.fail_bind]

/--
Loading a settings file, whatever stands at the path and whatever limits the reader has, returns
settings or reports an error in its first line on the console and ends the program with status
one, exactly where nothing is wrong with the file that is not looked for.  Where something is,
loading fails and says nothing.
-/
theorem load_ends_cleanly_iff
    (path : String)
    (file : FileContent)
    (start : S) :
    (EndsCleanly (load json path file start) ↔ ¬ Slips json.limits file)
      ∧ (Slips json.limits file →
        ∃ f, load json path file start = ⟨[], .error (.fault f), start⟩) := by
  rcases slipsIf_load json path file with ⟨hslips, f, hload⟩ | ⟨hfits, hends⟩
  · have hfails : (load json path file start : Report S Settings) =
        ⟨[], .error (.fault f), start⟩ := congrFun hload start
    refine ⟨iff_of_false ?_ (not_not_intro hslips), fun _ => ⟨f, hfails⟩⟩
    rw [hfails]
    rintro (⟨s, h⟩ | ⟨h, -⟩) <;> cases h
  · exact ⟨iff_of_true (hends start) hfits, fun h => absurd h hfits⟩

/-- A byte that no text holds makes loading fail without a word. -/
theorem load_fails_undecodable :
    let r : Report Unit Settings := load .unlimited "config.json" (.bytes ⟨#[0xFF]⟩) ()
    r.result = .error (.fault .undecodable) ∧ r.trace.lines = [] ∧ ¬ EndsCleanly r := by
  have hundecodable : String.fromUTF8? ⟨#[0xFF]⟩ = none := by decide +kernel
  intro r
  have hr : r = ⟨[], .error (.fault .undecodable), ()⟩ := by
    simp only [r, load, readValue, hundecodable]
    rfl
  rw [hr]
  refine ⟨rfl, rfl, ?_⟩
  rintro (⟨s, h⟩ | ⟨h, -⟩) <;> cases h

end Settings

end AcceptorHost
