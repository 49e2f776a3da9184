import AcceptorHost.Proofs.Credits
import AcceptorHost.Proofs.Frames
import AcceptorHost.Proofs.Loading

/-!
# The names of the bills in a settings file

A settings file may name the bills with values of any kind, and the codec that is built
from it takes them as they are.  A reply then has the name of its index, and it reports
a credit if and only if it reports a stacked bill with an index and that name is not
null.  Credits follow the index alone if and only if none of the seven names is null;
otherwise some frame reports a stacked bill with an index and no credit.
-/

namespace AcceptorHost

namespace Settings

variable {S : Type}

/-- The names that a block gives the bills, the usual ones if it gives none. -/
def namesOf (fields : List (String × Value)) : Option (List Value) :=
  match Value.lookup "bill_names" fields with
  | none => some Codec.usualBillNames
  | some names => names.members?

/-- The names that the value of a settings file gives the bills. -/
def namesIn (v : Value) : Option (List Value) :=
  (block? v).bind fun block => namesOf block.2

theorem namesField_ok
    {fields : List (String × Value)}
    {names : List Value}
    {start : S}
    (h : (namesField fields start).result = .ok names) :
    namesOf fields = some names := by
  unfold namesField at h
  unfold namesOf
  cases hlookup : Value.lookup "bill_names" fields with
  | none =>
      rw [hlookup] at h
      exact congrArg some (Except.ok.inj h)
  | some v =>
      rw [hlookup] at h
      cases hmembers : v.members? with
      | none =>
          simp only [hmembers] at h
          cases h
      | some members =>
          simp only [hmembers] at h
          exact hmembers.trans (congrArg some (Except.ok.inj h))

/-- The name of the port and those of the bills stand in the settings of a block as they are. -/
theorem ofBlock_ok
    {limits : Json.Limits}
    {name : Value}
    {fields : List (String × Value)}
    {start : S}
    {s : Settings}
    (h : (ofBlock limits name fields start).result = .ok s) :
    s.portName = name ∧ namesOf fields = some s.billNames := by
  -- The five numbers come first and leave the names alone.
  obtain ⟨_, -, h⟩ := Run.ok_of_bind h
  obtain ⟨_, -, h⟩ := Run.ok_of_bind h
  obtain ⟨_, -, h⟩ := Run.ok_of_bind h
  obtain ⟨_, -, h⟩ := Run.ok_of_bind h
  obtain ⟨_, -, h⟩ := Run.ok_of_bind h
  obtain ⟨names, hnames, h⟩ := Run.ok_of_bind h
  rw [namesField_ok hnames]
  split at h
  · rw [← Except.ok.inj h]
    exact ⟨rfl, rfl⟩
  · cases h

/-- Settings that were loaded are those of a block in the value of their file. -/
theorem exists_block_of_load
    {json : JsonLibrary}
    {path : String}
    {file : FileContent}
    {start : S}
    {s : Settings}
    (h : (load json path file start).result = .ok s) :
    ∃ v name fields,
      (readValue json path file start).result = .ok v
        ∧ block? v = some (name, fields)
        ∧ s.portName = name
        ∧ namesOf fields = some s.billNames := by
  obtain ⟨v, hv, h⟩ := Run.ok_of_bind h
  cases v with
  | record members =>
      cases hblock : block? (.record members) with
      | none =>
          simp only [ofValue, hblock] at h
          cases h
      | some block =>
          simp only [ofValue, hblock] at h
          obtain ⟨hport, hnames⟩ := ofBlock_ok h
          exact ⟨_, block.1, block.2, hv, hblock, hport, hnames⟩
  | _ =>
      cases h

/-- Settings that were loaded have the names of their file. -/
theorem load_ok
    {json : JsonLibrary}
    {path : String}
    {file : FileContent}
    {start : S}
    {s : Settings}
    (h : (load json path file start).result = .ok s) :
    ∃ v, (readValue json path file start).result = .ok v ∧ namesIn v = some s.billNames := by
  obtain ⟨v, name, fields, hv, hblock, -, hnames⟩ := exists_block_of_load h
  refine ⟨v, hv, ?_⟩
  rw [namesIn, hblock]
  exact hnames

/-- The codec of settings, before any command. -/
def codec (s : Settings) : Codec :=
  ⟨BitVec.ofInt 7 s.enabledBills, s.billNames, false, s.seven_names⟩

theorem ofNames_eq
    (s : Settings) :
    Codec.ofNames s.enabledBills s.billNames = .ok s.codec := dif_pos s.seven_names

/-- Building takes the timeout and the interval as floating point numbers, and everything else as
it is. -/
theorem build_eq
    (longest : Option Binary64)
    (s : Settings) :
    s.build longest = s.timeoutSeconds.bind fun timeout =>
      (Policy.interval (.int s.pollIntervalMs)).map fun interval =>
        (⟨s.portName, .int s.baudRate, .float timeout⟩,
          ⟨⟨interval, .int s.pollRetryLimit, .float timeout, s.maskSerialNumber, longest⟩,
            s.codec, .fresh, .empty, .fresh⟩) := by
  unfold build Courier.create
  rw [s.ofNames_eq]
  cases s.timeoutSeconds with
  | error f =>
      rfl
  | ok timeout =>
      cases Policy.interval (.int s.pollIntervalMs) <;> rfl

/-- A courier that settings build is fresh, and its policy is that of the settings. -/
theorem courier_of_build
    {longest : Option Binary64}
    {s : Settings}
    {port : SerialPort}
    {courier : Courier}
    (h : s.build longest = .ok (port, courier)) :
    ∃ interval timeout, Policy.interval (.int s.pollIntervalMs) = .ok interval ∧
      courier = ⟨⟨interval, .int s.pollRetryLimit, timeout, s.maskSerialNumber, longest⟩,
        s.codec, .fresh, .empty, .fresh⟩ := by
  rw [build_eq] at h
  cases htimeout : s.timeoutSeconds with
  | error f =>
      rw [htimeout] at h
      cases h
  | ok timeout =>
      cases hinterval : Policy.interval (.int s.pollIntervalMs) with
      | error f =>
          rw [htimeout, hinterval] at h
          cases h
      | ok interval =>
          rw [htimeout, hinterval] at h
          cases h
          exact ⟨interval, .float timeout, rfl, rfl⟩

/-- A codec that is built from settings calls the bills what the settings do. -/
theorem build_ok
    {longest : Option Binary64}
    {s : Settings}
    {port : SerialPort}
    {courier : Courier}
    (h : s.build longest = .ok (port, courier)) :
    courier.codec.billNames = s.billNames := by
  obtain ⟨interval, timeout, -, rfl⟩ := courier_of_build h
  rfl

/-! ## A file with a null name -/

/-- The text of a settings file in which the first bill has no name and the others have numbers. -/
def unnamedBillText : String :=
  "\x7b\"apex\": \x7b\"port_name\": \"dev0\", \"bill_names\": [null, 2, 5, 10, 20, 50, 100]\x7d\x7d"

/-- The names in that file. -/
def unnamedBillNames : List Value := [.null, .int 2, .int 5, .int 10, .int 20, .int 50, .int 100]

/-- The value of that file. -/
def unnamedBillValue : Value :=
  .record
    [("apex", .record [("port_name", .text "dev0"), ("bill_names", .list unnamedBillNames)])]

/-- The settings of that file. -/
def unnamedBill : Settings where
  portName := .text "dev0"
  baudRate := 9600
  pollIntervalMs := 100
  pollRetryLimit := 5
  timeoutMs := 250
  enabledBills := 0x7F
  billNames := unnamedBillNames
  maskSerialNumber := false
  seven_names := rfl

theorem parse_unnamedBill :
    Json.parse .none (String.ofList (Text.uniformLines unnamedBillText.toList)) =
      .ok unnamedBillValue := by
  have htext : unnamedBillText.toList = _ := String.toList_ofList
  rw [Json.parse, String.toList_ofList, htext]
  decide +kernel

theorem read_unnamedBill :
    ((readValue .unlimited "config.json" (.bytes unnamedBillText.toUTF8) : Run Unit Value)
        ()).result = .ok unnamedBillValue := by
  have hvalue := (FileContent.read?_toUTF8 .none unnamedBillText).trans
    (congrArg some parse_unnamedBill)
  rw [readValue_of_read? .unlimited "config.json" hvalue]
  rfl

theorem load_unnamedBill :
    ((load .unlimited "config.json" (.bytes unnamedBillText.toUTF8) : Run Unit Settings)
        ()).result = .ok unnamedBill := by
  rw [load, Run.bind_of_ok read_unnamedBill]
  rfl

theorem build_unnamedBill :
    ∃ port courier,
      unnamedBill.build (some Policy.usualLongestWait) = .ok (port, courier) := by
  have hbuilds : (unnamedBill.build (some Policy.usualLongestWait)).isOk = true := by
    decide +kernel
  cases hbuild : unnamedBill.build (some Policy.usualLongestWait) with
  | ok built =>
      exact ⟨built.1, built.2, rfl⟩
  | error f =>
      rw [hbuild] at hbuilds
      cases hbuilds

end Settings

namespace Reply

/-- A reply reports a credit if and only if it reports a stacked bill and gives it an index. -/
def CreditsByIndex (c : Codec) (x : List UInt8) : Prop :=
  .credit ∈ (decode c x).events ↔ dataByte x 0 &&& 0x10 ≠ 0 ∧ billIndex (dataByte x 2) ≠ 0

/-- A credit is reported of a stacked bill whose name is not null. -/
theorem credit_mem_decode
    (c : Codec)
    (x : List UInt8) :
    .credit ∈ (decode c x).events ↔
      dataByte x 0 &&& 0x10 ≠ 0 ∧ nameOf c (billIndex (dataByte x 2)) ≠ .null := by
  have hcredit := credit_not_mem_reported (dataByte x 0) (dataByte x 1) (dataByte x 2)
  have hstacked := stacked_mem_reported (dataByte x 0) (dataByte x 1) (dataByte x 2)
  by_cases hname : nameOf c (billIndex (dataByte x 2)) = .null
  · simp [decode, hname, hcredit]
  · by_cases hbit : dataByte x 0 &&& 0x10 = 0
    · simp [decode, hname, hcredit, hstacked, hbit]
    · simp [decode, hname, hcredit, hstacked, hbit]

/-- The reply of a stacked bill with an index and no other report. -/
def stackedBill (index : Fin 8) : List UInt8 :=
  Frame.encode Frame.replyType [0x10, cassetteBit, UInt8.ofNat index <<< 3, 0x00, 0x00, 0x00]

theorem billIndex_stackedBill
    (index : Fin 8) :
    billIndex (dataByte (stackedBill index) 2) = index := by
  have hplaced : ∀ i : Fin 8, billIndex (UInt8.ofNat i <<< 3) = i := by decide
  rw [dataByte, stackedBill, Frame.payloadPart_encode]
  exact hplaced index

/-- Where a name is null, the bill of its index is stacked without a credit. -/
theorem exists_lost_credit
    {c : Codec}
    (hnull : .null ∈ c.billNames) :
    ∃ x, Frame.accepts x = true ∧ ¬ CreditsByIndex c x := by
  obtain ⟨i, hi, hname⟩ := List.mem_iff_getElem.mp hnull
  have hlt : i + 1 < 8 := by
    have := c.seven_names
    omega
  have hindex := billIndex_stackedBill ⟨i + 1, hlt⟩
  have hstacked : dataByte (stackedBill ⟨i + 1, hlt⟩) 0 &&& 0x10 ≠ 0 := by
    rw [dataByte, stackedBill, Frame.payloadPart_encode]
    change (0x10 : UInt8) &&& 0x10 ≠ 0
    decide
  refine ⟨stackedBill ⟨i + 1, hlt⟩, ?_, fun hlaw => ?_⟩
  · exact (Frame.accepts_iff_encode _).mpr ⟨_, _, by simp [Frame.maxPayload], rfl⟩
  · -- The law asks for a credit, and the null name refuses it.
    have hcredit := hlaw.mpr ⟨hstacked, by rw [hindex]; exact Nat.succ_ne_zero i⟩
    refine ((credit_mem_decode c _).mp hcredit).2 ?_
    rw [hindex, nameOf, if_neg (Nat.succ_ne_zero i), Nat.add_sub_cancel,
      List.getD_eq_getElem?_getD, List.getElem?_eq_getElem hi, hname]
    rfl

/-- Where no name is null, credits follow the index. -/
theorem creditsByIndex_of_named
    {c : Codec}
    (hnamed : .null ∉ c.billNames)
    (x : List UInt8) :
    CreditsByIndex c x := by
  refine (credit_mem_decode c x).trans (and_congr_right fun _ => ?_)
  constructor
  · rintro hname hzero
    exact hname (by rw [hzero, nameOf, if_pos rfl])
  · intro hindex hname
    exact hnamed (hname ▸ (nameOf_mem hindex (billIndex_le _)).2)

/--
A settings file that is loaded and gives a courier names seven bills, with values of
any kind, and its codec reads every reply with these names, whatever commands it has
built: a reply has the name of its index, null if it has none, and it reports a credit
if and only if it reports a stacked bill with an index whose name is not null.  If no
name is null, a stacked bill with an index is all that a credit takes; if one is, some
frame reports a stacked bill with an index, and its credit is lost.
-/
theorem credits_follow_index_iff
    {S : Type}
    {json : JsonLibrary}
    {path : String}
    {file : FileContent}
    {start : S}
    {longest : Option Binary64}
    {s : Settings}
    {port : SerialPort}
    {courier : Courier}
    (hload : (Settings.load json path file start).result = .ok s)
    (hbuild : s.build longest = .ok (port, courier)) :
    ∃ v names,
      (Settings.readValue json path file start).result = .ok v ∧
      Settings.namesIn v = some names ∧
      names.length = 7 ∧
      (∀ (c : Codec) (x : List UInt8), c.billNames = courier.codec.billNames →
        let index := billIndex (dataByte x 2)
        let name := if index = 0 then .null else names.getD (index - 1) .null
        (decode c x).billName = name ∧
        (.credit ∈ (decode c x).events ↔
          dataByte x 0 &&& 0x10 ≠ 0 ∧ index ≠ 0 ∧ name ≠ .null) ∧
        (.null ∉ names → CreditsByIndex c x)) ∧
      (.null ∈ names → ∃ x, Frame.accepts x = true ∧ ¬ CreditsByIndex courier.codec x) := by
  obtain ⟨v, hv, hnames⟩ := Settings.load_ok hload
  have hcodec := Settings.build_ok hbuild
  refine ⟨v, s.billNames, hv, hnames, s.seven_names, fun c x hc => ?_, fun hnull => ?_⟩
  · have hname : nameOf c (billIndex (dataByte x 2)) =
        if billIndex (dataByte x 2) = 0 then .null
        else s.billNames.getD (billIndex (dataByte x 2) - 1) .null := by
      rw [nameOf, hc, hcodec]
    refine ⟨hname, ?_, fun hnamed => creditsByIndex_of_named (by rwa [hc, hcodec]) x⟩
    rw [credit_mem_decode, hname]
    refine and_congr_right fun _ => ?_
    constructor
    · intro hnonnull
      refine ⟨fun hzero => hnonnull ?_, hnonnull⟩
      rw [if_pos hzero]
    · exact And.right
  · exact exists_lost_credit (hcodec ▸ hnull)

/-- Where the first bill has no name, the second one is still credited, and some frame is not. -/
theorem credits_follow_index_unnamed :
    ∃ port courier,
      Settings.unnamedBill.build (some Policy.usualLongestWait) = .ok (port, courier) ∧
      .credit ∈ (decode courier.codec (stackedBill 2)).events ∧
      ∃ x, Frame.accepts x = true ∧ ¬ CreditsByIndex courier.codec x := by
  obtain ⟨port, courier, hbuild⟩ := Settings.build_unnamedBill
  obtain ⟨v, names, hv, hnames, -, hcredits, hlost⟩ :=
    credits_follow_index_iff Settings.load_unnamedBill hbuild
  have hsame : names = Settings.unnamedBillNames := by
    have hfile : some names = some Settings.unnamedBillNames := by
      rw [← hnames, Except.ok.inj (hv.symm.trans Settings.read_unnamedBill)]
      rfl
    exact Option.some.inj hfile
  subst hsame
  refine ⟨port, courier, hbuild, ?_, hlost (by decide)⟩
  exact (hcredits courier.codec (stackedBill 2) rfl).2.1.mpr (by decide)

/-- The first bill is stacked with its index, and no credit is reported. -/
theorem credit_of_unnamed_bill_lost :
    ∃ port courier,
      ((Settings.load .unlimited "config.json" (.bytes Settings.unnamedBillText.toUTF8) :
          Run Unit Settings) ()).result = .ok Settings.unnamedBill ∧
      Settings.unnamedBill.build (some Policy.usualLongestWait) = .ok (port, courier) ∧
      let x := [0x02, 0x0B, 0x20, 0x10, 0x10, 0x08, 0x00, 0x00, 0x00, 0x03, 0x23]
      Frame.accepts x = true ∧
      dataByte x 0 &&& 0x10 ≠ 0 ∧
      billIndex (dataByte x 2) = 1 ∧
      .credit ∉ (decode courier.codec x).events := by
  obtain ⟨port, courier, hbuild⟩ := Settings.build_unnamedBill
  refine ⟨port, courier, Settings.load_unnamedBill, hbuild, by decide,
    by decide, by decide, fun hcredit => ?_⟩
  refine ((credit_mem_decode _ _).mp hcredit).2 ?_
  rw [nameOf, Settings.build_ok hbuild]
  rfl

end Reply

end AcceptorHost
