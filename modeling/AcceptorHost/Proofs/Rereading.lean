import AcceptorHost.Proofs.BillNames
import AcceptorHost.Proofs.JsonText

/-!
# Settings that are written and read again

A settings file may leave fields out, hold more than are known, and hold values of many kinds
that are converted.  The settings that come of it are written with all their fields, each of the
kind that its conversion gives, so reading them again converts nothing.  Their port name counts,
and they name seven bills, so they pass what is checked.
-/

namespace AcceptorHost

namespace Settings

variable {S : Type}

/-- The name of a port in a block of settings counts. -/
theorem truth_of_block?
    {v name : Value}
    {fields : List (String × Value)}
    (h : block? v = some (name, fields)) :
    name.truth = true := by
  unfold block? at h
  split at h
  · split at h
    · split at h
      · cases h
        assumption
      · cases h
    · cases h
  · cases h

/-- Settings that were loaded have a port name that counts. -/
theorem truth_of_load
    {json : JsonLibrary}
    {path : String}
    {file : FileContent}
    {start : S}
    {s : Settings}
    (h : (load json path file start).result = .ok s) :
    s.portName.truth = true := by
  obtain ⟨v, name, fields, -, hblock, hport, -⟩ := exists_block_of_load h
  rw [hport]
  exact truth_of_block? hblock

/-- The fields that settings are written with. -/
def fields (s : Settings) : List (String × Value) :=
  [("port_name", s.portName),
   ("baud_rate", .int s.baudRate),
   ("poll_interval_ms", .int s.pollIntervalMs),
   ("poll_retry_limit", .int s.pollRetryLimit),
   ("timeout_ms", .int s.timeoutMs),
   ("enabled_bills", .int s.enabledBills),
   ("bill_names", .list s.billNames),
   ("mask_serial_number", .bool s.maskSerialNumber)]

theorem toValue_eq
    (s : Settings) :
    s.toValue = .record [("apex", .record s.fields)] := rfl

/-- An integer stands for itself. -/
theorem intField_int
    {limits : Json.Limits}
    {fields : List (String × Value)}
    {name : String}
    {n : Int}
    (usual : Int)
    (h : Value.lookup name fields = some (.int n)) :
    (intField limits fields name usual : Run S Int) = Run.give n := by
  rw [intField, h]
  rfl

/-- Every conversion finds a value of its own kind and returns it as it is. -/
theorem ofBlock_fields
    (limits : Json.Limits)
    (s : Settings) :
    (ofBlock limits s.portName s.fields : Run S Settings) = Run.give s := by
  have hnames : (namesField s.fields : Run S (List Value)) = Run.give s.billNames := by
    simp [namesField, fields, Value.lookup, Value.members?]
  have hmask : Value.lookup "mask_serial_number" s.fields = some (.bool s.maskSerialNumber) := by
    simp [fields, Value.lookup]
  rw [ofBlock, intField_int (n := s.baudRate) 9600 (by simp [fields, Value.lookup]), Run.give_bind,
    intField_int (n := s.pollIntervalMs) 100 (by simp [fields, Value.lookup]), Run.give_bind,
    intField_int (n := s.pollRetryLimit) 5 (by simp [fields, Value.lookup]), Run.give_bind,
    intField_int (n := s.timeoutMs) 250 (by simp [fields, Value.lookup]), Run.give_bind,
    intField_int (n := s.enabledBills) 0x7F (by simp [fields, Value.lookup]), Run.give_bind,
    hnames, Run.give_bind, hmask]
  exact dif_pos s.seven_names

/-- A value that was written from settings gives them back, if their port name counts. -/
theorem ofValue_toValue
    (limits : Json.Limits)
    (path : String)
    {s : Settings}
    (h : s.portName.truth = true) :
    (ofValue limits path s.toValue : Run S Settings) = Run.give s := by
  have hblock : block? s.toValue = some (s.portName, s.fields) := by
    simp [block?, toValue_eq, Value.field?, Value.lookup, fields, h]
  rw [toValue_eq] at hblock ⊢
  simp only [ofValue, hblock, ofBlock_fields]

/-- A file of compact JSON text holds the value of the text. -/
theorem read?_compact
    (limits : Json.Limits)
    (v : Value) :
    (FileContent.bytes (Json.compact v).toUTF8).read? limits =
      some (Json.parse limits (Json.compact v)) := by
  rw [FileContent.read?_toUTF8, Text.uniformLines_of_plain (Json.plain_compact v),
    String.ofList_toList]

/--
Settings that come of a file, whatever kinds of values it holds, survive that they are written
and read again, be it by a reader with other limits: every file that holds the value they are
written as gives these settings, and so does the file of its compact text where that text reads
back as the value.
-/
theorem load_written
    {json : JsonLibrary}
    {path : String}
    {file : FileContent}
    {start : S}
    {s : Settings}
    (hload : (load json path file start).result = .ok s)
    (json' : JsonLibrary) :
    (∀ path written start, written.read? json'.limits = some (.ok s.toValue) →
        (load json' path written start : Report S Settings) = ⟨[], .ok s, start⟩)
      ∧ (Json.parse json'.limits (Json.compact s.toValue) = .ok s.toValue → ∀ path start,
        (load json' path (.bytes (Json.compact s.toValue).toUTF8) start : Report S Settings) =
          ⟨[], .ok s, start⟩) := by
  have hholds : ∀ path written start, written.read? json'.limits = some (.ok s.toValue) →
      (load json' path written start : Report S Settings) = ⟨[], .ok s, start⟩ := by
    intro path written start hvalue
    rw [load_of_read? json' path hvalue, ofValue_toValue _ path (truth_of_load hload)]
    rfl
  refine ⟨hholds, fun hjson path start => hholds path _ start ?_⟩
  rw [read?_compact, hjson]

/-- The text of a settings file with values of many kinds. -/
def mixedText : String :=
  "\x7b\"apex\":\x7b\"port_name\":[0],\"baud_rate\":\"1_2\",\"bill_names\":\"ABCDEFG\"\x7d\x7d"

/-- The value of that file. -/
def mixedValue : Value :=
  .record
    [("apex", .record
      [("port_name", .list [.int 0]), ("baud_rate", .text "1_2"),
        ("bill_names", .text "ABCDEFG")])]

/-- The settings of that file. -/
def mixed : Settings where
  portName := .list [.int 0]
  baudRate := 12
  pollIntervalMs := 100
  pollRetryLimit := 5
  timeoutMs := 250
  enabledBills := 0x7F
  billNames := [.text "A", .text "B", .text "C", .text "D", .text "E", .text "F", .text "G"]
  maskSerialNumber := false
  seven_names := rfl

theorem parse_mixed :
    Json.parse .none (String.ofList (Text.uniformLines mixedText.toList)) = .ok mixedValue := by
  have htext : mixedText.toList = _ := String.toList_ofList
  rw [Json.parse, String.toList_ofList, htext]
  decide +kernel

theorem load_mixed :
    (load .unlimited "config.json" (.bytes mixedText.toUTF8) () : Report Unit Settings).result =
      .ok mixed := by
  have hvalue := (FileContent.read?_toUTF8 .none mixedText).trans (congrArg some parse_mixed)
  rw [load_of_read? .unlimited "config.json" hvalue]
  rfl

/-- A file with values of many kinds is converted once. -/
theorem load_written_mixed :
    (load .unlimited "apex.json" (.bytes (Json.compact mixed.toValue).toUTF8) () :
        Report Unit Settings) =
      ⟨[], .ok mixed, ()⟩ := by
  have hjson : Json.parse .none (Json.compact mixed.toValue) = .ok mixed.toValue := by
    decide +kernel
  exact (load_written load_mixed .unlimited).2 hjson "apex.json" ()

end Settings

end AcceptorHost
