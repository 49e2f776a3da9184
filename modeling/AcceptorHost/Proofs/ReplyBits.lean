import AcceptorHost.Proofs.Credits

/-!
# The bits of a reply

A table of a reply maps single bits to events, so what is drawn from it is a part of its
column of events, in order, and it tells as much of a byte as the mask of all its bits
leaves.  Together with the index of the bill the tables cover seven bits of the first
data byte, five of the second and six of the third.  With distinct names of bills none of
these is lost, and nothing else is looked at but the model and the firmware revision.
-/

namespace AcceptorHost

/-! ## Single bits and masks -/

/-- A byte with one bit set. -/
def IsBit (bit : UInt8) : Prop := ∃ i, bit.toBitVec = BitVec.twoPow 8 i

namespace IsBit

/-- A single bit masks a byte to nothing or to itself. -/
theorem and_eq
    {bit : UInt8}
    (h : IsBit bit)
    (a : UInt8) :
    a &&& bit = 0 ∨ a &&& bit = bit := by
  obtain ⟨i, hi⟩ := h
  have hmasked : (a &&& bit).toBitVec =
      if a.toBitVec.getLsbD i then BitVec.twoPow 8 i else 0#8 := by
    rw [UInt8.toBitVec_and, hi, BitVec.and_twoPow]
  split at hmasked
  · exact .inr (UInt8.eq_of_toBitVec_eq (hmasked.trans hi.symm))
  · exact .inl (UInt8.eq_of_toBitVec_eq hmasked)

/-- Bytes agree on a single bit if it is clear in both or in neither. -/
theorem and_eq_and_iff
    {bit : UInt8}
    (h : IsBit bit)
    (a b : UInt8) :
    a &&& bit = b &&& bit ↔ (a &&& bit = 0 ↔ b &&& bit = 0) := by
  constructor
  · intro heq
    rw [heq]
  · intro hclear
    rcases h.and_eq a with ha | ha
    · rw [ha, hclear.mp ha]
    · rcases h.and_eq b with hb | hb
      · rw [hb, hclear.mpr hb]
      · rw [ha, hb]

end IsBit

/-- Bytes agree on two masks together if they agree on each. -/
theorem and_or_eq_and_or_iff
    (a b p q : UInt8) :
    a &&& (p ||| q) = b &&& (p ||| q) ↔ a &&& p = b &&& p ∧ a &&& q = b &&& q := by
  have hsplit : ∀ x : UInt8, x &&& (p ||| q) = x &&& p ||| x &&& q := fun x =>
    UInt8.eq_of_toBitVec_eq BitVec.and_or_distrib_left
  have hleft : ∀ x : UInt8, x &&& (p ||| q) &&& p = x &&& p := by
    intro x
    refine UInt8.eq_of_toBitVec_eq ?_
    ext i hi
    simp only [UInt8.toBitVec_and, UInt8.toBitVec_or, BitVec.getElem_and, BitVec.getElem_or]
    cases p.toBitVec[i] <;> simp
  have hright : ∀ x : UInt8, x &&& (p ||| q) &&& q = x &&& q := by
    intro x
    refine UInt8.eq_of_toBitVec_eq ?_
    ext i hi
    simp only [UInt8.toBitVec_and, UInt8.toBitVec_or, BitVec.getElem_and, BitVec.getElem_or]
    cases q.toBitVec[i] <;> simp
  constructor
  · intro heq
    refine ⟨?_, ?_⟩
    · rw [← hleft a, heq, hleft b]
    · rw [← hright a, heq, hright b]
  · rintro ⟨hp, hq⟩
    rw [hsplit a, hsplit b, hp, hq]

/-- A field that is shifted down, masked and shifted back is the byte under the shifted mask. -/
theorem ushiftRight_and_shiftLeft
    (x mask : BitVec 8)
    (k : Nat) :
    ((x >>> k) &&& mask) <<< k = x &&& (mask <<< k) := by
  ext i hi
  simp only [BitVec.getElem_shiftLeft, BitVec.getElem_and, BitVec.getElem_ushiftRight]
  by_cases hlow : i < k
  · simp [hlow]
  · have hplace : k + (i - k) = i := by omega
    simp [hlow, hplace, BitVec.getLsbD_eq_getElem hi]

namespace Reply

/-! ## Tables -/

/-- All bits of a table. -/
def maskOf (table : List (UInt8 × DeviceEvent)) : UInt8 :=
  table.foldr (fun row mask => row.1 ||| mask) 0

/-- The bits of a table agree exactly when what its mask leaves does. -/
theorem and_maskOf_eq_iff
    {table : List (UInt8 × DeviceEvent)}
    (hbits : ∀ row ∈ table, IsBit row.1)
    (a b : UInt8) :
    a &&& maskOf table = b &&& maskOf table ↔
      ∀ row ∈ table, (a &&& row.1 = 0 ↔ b &&& row.1 = 0) := by
  induction table with
  | nil =>
      simp [maskOf]
  | cons row more ih =>
      have hmask : maskOf (row :: more) = row.1 ||| maskOf more := rfl
      rw [hmask, and_or_eq_and_or_iff, (hbits row (by simp)).and_eq_and_iff,
        ih fun r hr => hbits r (List.mem_cons_of_mem _ hr), List.forall_mem_cons]

/-- What is drawn from a table is the part of its events that a test lets pass. -/
theorem eventsOf_eq_filter
    {table : List (UInt8 × DeviceEvent)}
    {b : UInt8}
    {p : DeviceEvent → Bool}
    (h : ∀ row ∈ table, p row.2 = (b &&& row.1 != 0)) :
    eventsOf table b = (table.map (·.2)).filter p := by
  rw [List.filter_map, eventsOf]
  exact congrArg (List.map _) (List.filter_congr fun row hrow => (h row hrow).symm)

theorem isBit_of_mem_stateBits : ∀ row ∈ stateBits, IsBit row.1 := by
  simp only [stateBits, List.forall_mem_cons]
  exact ⟨⟨0, rfl⟩, ⟨1, rfl⟩, ⟨2, rfl⟩, ⟨3, rfl⟩, ⟨4, rfl⟩, ⟨5, rfl⟩, ⟨6, rfl⟩, by simp⟩

theorem isBit_of_mem_faultBits : ∀ row ∈ faultBits, IsBit row.1 := by
  simp only [faultBits, List.forall_mem_cons]
  exact ⟨⟨0, rfl⟩, ⟨1, rfl⟩, ⟨2, rfl⟩, ⟨3, rfl⟩, by simp⟩

theorem isBit_of_mem_conditionBits : ∀ row ∈ conditionBits, IsBit row.1 := by
  simp only [conditionBits, List.forall_mem_cons]
  exact ⟨⟨0, rfl⟩, ⟨1, rfl⟩, ⟨2, rfl⟩, by simp⟩

/-! ## The name of the bill -/

/-- Two bytes hold one index of a bill exactly when they agree on its three bits. -/
theorem billIndex_eq_iff
    (a b : UInt8) :
    billIndex a = billIndex b ↔ a &&& 0x38 = b &&& 0x38 := by
  have hplaced : ∀ x : UInt8, ((x >>> 3) &&& 0x07) <<< 3 = x &&& 0x38 := fun x =>
    UInt8.eq_of_toBitVec_eq (ushiftRight_and_shiftLeft x.toBitVec 7 3)
  have hfield : ∀ x : UInt8, (x &&& 0x38) >>> 3 = (x >>> 3) &&& 0x07 := fun x =>
    UInt8.eq_of_toBitVec_eq (BitVec.ushiftRight_and_distrib x.toBitVec 0x38 3)
  constructor
  · intro hindex
    rw [← hplaced a, ← hplaced b, UInt8.toNat_inj.mp hindex]
  · intro hbits
    rw [billIndex, billIndex, ← hfield a, ← hfield b, hbits]

/-- The name of an index is found among the names. -/
theorem getElem?_nameOf
    (c : Codec)
    {index : Nat}
    (hzero : index ≠ 0)
    (hindex : index ≤ 7) :
    c.billNames[index - 1]? = some (nameOf c index) := by
  have hlength : index - 1 < c.billNames.length := by
    rw [c.seven_names]
    omega
  rw [(nameOf_mem hzero hindex).1, List.getD_eq_getElem?_getD,
    List.getElem?_eq_getElem hlength, Option.getD_some]

/-- With texts for names only the index zero has none. -/
theorem nameOf_eq_null_iff
    {c : Codec}
    (htexts : ∀ name ∈ c.billNames, ∃ s, name = .text s)
    {index : Nat}
    (hindex : index ≤ 7) :
    nameOf c index = .null ↔ index = 0 := by
  constructor
  · intro hnull
    refine Decidable.byContradiction fun hzero => ?_
    obtain ⟨s, hs⟩ := htexts _ (nameOf_mem hzero hindex).2
    rw [hnull] at hs
    cases hs
  · intro hzero
    rw [nameOf, if_pos hzero]

/-- Distinct texts tell the indices apart. -/
theorem nameOf_inj
    {c : Codec}
    (hdistinct : c.billNames.Nodup)
    (htexts : ∀ name ∈ c.billNames, ∃ s, name = .text s)
    {i j : Nat}
    (hi : i ≤ 7)
    (hj : j ≤ 7)
    (hname : nameOf c i = nameOf c j) :
    i = j := by
  by_cases hzero : i = 0
  · have hnull := (nameOf_eq_null_iff htexts hi).mpr hzero
    rw [hzero, (nameOf_eq_null_iff htexts hj).mp (hname ▸ hnull)]
  · have hother : j ≠ 0 := by
      intro hj0
      have hnull := (nameOf_eq_null_iff htexts hj).mpr hj0
      exact hzero ((nameOf_eq_null_iff htexts hi).mp (hname.trans hnull))
    have hat : c.billNames[i - 1]? = c.billNames[j - 1]? := by
      rw [getElem?_nameOf c hzero hi, getElem?_nameOf c hother hj, hname]
    have hlength : i - 1 < c.billNames.length := by
      rw [c.seven_names]
      omega
    have hsame := (List.getElem?_inj hlength hdistinct).mp hat
    omega

/-! ## What is reported -/

/-- Received bytes report an event. -/
def reports (x : List UInt8) : DeviceEvent → Bool
  | .idling => dataByte x 0 &&& 0x01 != 0
  | .accepting => dataByte x 0 &&& 0x02 != 0
  | .escrowed => dataByte x 0 &&& 0x04 != 0
  | .stacking => dataByte x 0 &&& 0x08 != 0
  | .stacked => dataByte x 0 &&& 0x10 != 0
  | .returning => dataByte x 0 &&& 0x20 != 0
  | .returned => dataByte x 0 &&& 0x40 != 0
  | .cheated => dataByte x 1 &&& 0x01 != 0
  | .billRejected => dataByte x 1 &&& 0x02 != 0
  | .billJammed => dataByte x 1 &&& 0x04 != 0
  | .stackerFull => dataByte x 1 &&& 0x08 != 0
  | .cassetteRemoved => dataByte x 1 &&& 0x10 == 0
  | .powerUp => dataByte x 2 &&& 0x01 != 0
  | .invalidCommand => dataByte x 2 &&& 0x02 != 0
  | .failure => dataByte x 2 &&& 0x04 != 0
  | .credit => dataByte x 0 &&& 0x10 != 0 && billIndex (dataByte x 2) != 0

theorem reports_of_mem_stateBits
    (x : List UInt8) :
    ∀ row ∈ stateBits, reports x row.2 = (dataByte x 0 &&& row.1 != 0) := by
  simp [stateBits, reports]

theorem reports_of_mem_faultBits
    (x : List UInt8) :
    ∀ row ∈ faultBits, reports x row.2 = (dataByte x 1 &&& row.1 != 0) := by
  simp [faultBits, reports]

theorem reports_of_mem_conditionBits
    (x : List UInt8) :
    ∀ row ∈ conditionBits, reports x row.2 = (dataByte x 2 &&& row.1 != 0) := by
  simp [conditionBits, reports]

/-- The order in which a reply tells its events. -/
def order : List DeviceEvent :=
  stateBits.map (·.2) ++ faultBits.map (·.2) ++ [.cassetteRemoved] ++ conditionBits.map (·.2)
    ++ [.credit]

theorem mem_order
    (e : DeviceEvent) :
    e ∈ order := DeviceEvent.mem_all e

/-- What is drawn from the data bytes is what is reported, in its order, the credit apart. -/
theorem reported_eq_filter
    (x : List UInt8) :
    reported (dataByte x 0) (dataByte x 1) (dataByte x 2) =
      List.filter (reports x)
        (stateBits.map (·.2) ++ faultBits.map (·.2) ++ [.cassetteRemoved]
          ++ conditionBits.map (·.2)) := by
  have hcassette :
      [DeviceEvent.cassetteRemoved].filter (reports x) =
        if dataByte x 1 &&& cassetteBit == 0 then [.cassetteRemoved] else [] := List.filter_cons
  rw [reported, eventsOf_eq_filter (reports_of_mem_stateBits x),
    eventsOf_eq_filter (reports_of_mem_faultBits x),
    eventsOf_eq_filter (reports_of_mem_conditionBits x), ← hcassette]
  simp only [List.filter_append]

/-- The events of a reply are those that are reported, in their order. -/
theorem events_decode
    {c : Codec}
    (htexts : ∀ name ∈ c.billNames, ∃ s, name = .text s)
    (x : List UInt8) :
    (decode c x).events = order.filter (reports x) := by
  have hsingle : ∀ e : DeviceEvent,
      [e].filter (reports x) = if reports x e then [e] else [] := fun e => List.filter_cons
  have hcredit : reports x .credit =
      ((reported (dataByte x 0) (dataByte x 1) (dataByte x 2)).contains .stacked &&
        nameOf c (billIndex (dataByte x 2)) != .null) := by
    have hstacked := stacked_mem_reported (dataByte x 0) (dataByte x 1) (dataByte x 2)
    have hname := nameOf_eq_null_iff htexts (billIndex_le (dataByte x 2))
    rw [Bool.eq_iff_iff]
    simp [reports, hstacked, hname]
  have hevents : (decode c x).events =
      reported (dataByte x 0) (dataByte x 1) (dataByte x 2) ++
        [DeviceEvent.credit].filter (reports x) := by
    rw [hsingle, hcredit]
    change (if _ then _ else _) = _
    split
    · rfl
    · exact (List.append_nil _).symm
  rw [hevents, reported_eq_filter, order, ← List.filter_append]

/-- Two replies tell the same events exactly when the same are reported. -/
theorem events_eq_iff
    {c : Codec}
    (htexts : ∀ name ∈ c.billNames, ∃ s, name = .text s)
    (x y : List UInt8) :
    (decode c x).events = (decode c y).events ↔ ∀ e, reports x e = reports y e := by
  rw [events_decode htexts, events_decode htexts]
  constructor
  · intro hsame e
    have hmem : e ∈ order.filter (reports x) ↔ e ∈ order.filter (reports y) := by rw [hsame]
    simpa [List.mem_filter, mem_order, ← Bool.eq_iff_iff] using hmem
  · intro hsame
    rw [funext hsame]

/-- The bits of a table are reported alike exactly when what its mask leaves agrees. -/
theorem reports_eq_iff_of_table
    {table : List (UInt8 × DeviceEvent)}
    (hbits : ∀ row ∈ table, IsBit row.1)
    {i : Nat}
    (hreports : ∀ z, ∀ row ∈ table, reports z row.2 = (dataByte z i &&& row.1 != 0))
    (x y : List UInt8) :
    (∀ row ∈ table, reports x row.2 = reports y row.2) ↔
      dataByte x i &&& maskOf table = dataByte y i &&& maskOf table := by
  rw [and_maskOf_eq_iff hbits]
  refine forall₂_congr fun row hrow => ?_
  rw [hreports x row hrow, hreports y row hrow, Bool.eq_iff_iff, bne_iff_ne, bne_iff_ne,
    not_iff_not]

/-- Events are reported alike exactly when the bits of all tables and the credit are. -/
theorem reports_eq_iff
    (x y : List UInt8) :
    (∀ e, reports x e = reports y e) ↔
      dataByte x 0 &&& 0x7F = dataByte y 0 &&& 0x7F ∧
        dataByte x 1 &&& 0x1F = dataByte y 1 &&& 0x1F ∧
        dataByte x 2 &&& 0x07 = dataByte y 2 &&& 0x07 ∧
        reports x .credit = reports y .credit := by
  have hstate : maskOf stateBits = 0x7F := rfl
  have hfault : maskOf faultBits ||| cassetteBit = 0x1F := rfl
  have hcondition : maskOf conditionBits = 0x07 := rfl
  have hcassette : reports x .cassetteRemoved = reports y .cassetteRemoved ↔
      dataByte x 1 &&& cassetteBit = dataByte y 1 &&& cassetteBit := by
    have hbit : IsBit cassetteBit := ⟨4, rfl⟩
    rw [hbit.and_eq_and_iff, Bool.eq_iff_iff]
    simp [reports, cassetteBit]
  rw [← hstate, ← hfault, ← hcondition, and_or_eq_and_or_iff,
    ← reports_eq_iff_of_table isBit_of_mem_stateBits reports_of_mem_stateBits,
    ← reports_eq_iff_of_table isBit_of_mem_faultBits reports_of_mem_faultBits,
    ← reports_eq_iff_of_table isBit_of_mem_conditionBits reports_of_mem_conditionBits, ← hcassette]
  constructor
  · intro hall
    exact ⟨fun row _ => hall row.2, ⟨fun row _ => hall row.2, hall _⟩, fun row _ => hall row.2,
      hall _⟩
  · rintro ⟨hstates, ⟨hfaults, hremoved⟩, hconditions, hcredit⟩ e
    have hplace := mem_order e
    simp only [order, List.mem_append, List.mem_map, List.mem_singleton] at hplace
    rcases hplace with (((⟨row, hrow, rfl⟩ | ⟨row, hrow, rfl⟩) | rfl) | ⟨row, hrow, rfl⟩) | rfl
    · exact hstates row hrow
    · exact hfaults row hrow
    · exact hremoved
    · exact hconditions row hrow
    · exact hcredit

/--
A reply is read whatever the bytes are, and nothing of it is lost.  Its events are told
once each, in their order, and each is told exactly when its bits report it; a bill with
an index has the name of that place, so the name is always found; a bill in escrow is to
be accepted.  Two replies tell the same events, name, model and firmware revision exactly
when the bits that have a meaning agree.
-/
theorem decode_faithful
    (c : Codec)
    (hdistinct : c.billNames.Nodup)
    (htexts : ∀ name ∈ c.billNames, ∃ s, name = .text s)
    (x y : List UInt8) :
    (decode c x).events.Nodup ∧
      (decode c x).events.Sublist
        (stateBits.map (·.2) ++ faultBits.map (·.2) ++ [.cassetteRemoved]
          ++ conditionBits.map (·.2) ++ [.credit]) ∧
      (∀ e, e ∈ (decode c x).events ↔ reports x e = true) ∧
      (billIndex (dataByte x 2) = 0 → (decode c x).billName = .null) ∧
      (billIndex (dataByte x 2) ≠ 0 →
        c.billNames[billIndex (dataByte x 2) - 1]? = some (decode c x).billName) ∧
      (decode c x).creditAction = (if dataByte x 0 &&& 0x04 ≠ 0 then .accept else .none) ∧
      ((decode c x).events = (decode c y).events ∧
          (decode c x).billName = (decode c y).billName ∧
          (decode c x).model = (decode c y).model ∧
          (decode c x).firmware = (decode c y).firmware ↔
        dataByte x 0 &&& 0x7F = dataByte y 0 &&& 0x7F ∧
          dataByte x 1 &&& 0x1F = dataByte y 1 &&& 0x1F ∧
          dataByte x 2 &&& 0x3F = dataByte y 2 &&& 0x3F ∧
          dataByte x 3 = dataByte y 3 ∧
          dataByte x 4 = dataByte y 4) := by
  have hevents := events_decode htexts x
  refine ⟨?_, ?_, ?_, ?_, ?_, ?_, ?_⟩
  · rw [hevents]
    exact List.Nodup.sublist List.filter_sublist (by decide)
  · rw [hevents]
    exact List.filter_sublist
  · intro e
    rw [hevents, List.mem_filter, and_iff_right (mem_order e)]
  · exact (nameOf_eq_null_iff htexts (billIndex_le _)).mpr
  · intro hindex
    exact getElem?_nameOf c hindex (billIndex_le _)
  · rw [decode_creditAction, decision]
    simp only [bne_iff_ne]
  · have hname : (decode c x).billName = (decode c y).billName ↔
        dataByte x 2 &&& 0x38 = dataByte y 2 &&& 0x38 := by
      rw [← billIndex_eq_iff]
      refine ⟨nameOf_inj hdistinct htexts (billIndex_le _) (billIndex_le _), fun h => ?_⟩
      exact congrArg (nameOf c) h
    have hbyte : (0x3F : UInt8) = 0x07 ||| 0x38 := rfl
    rw [events_eq_iff htexts, reports_eq_iff, hname, hbyte, and_or_eq_and_or_iff]
    constructor
    · rintro ⟨⟨hstate, hstatus, hcondition, -⟩, hindex, hmodel, hfirmware⟩
      exact ⟨hstate, hstatus, ⟨hcondition, hindex⟩, hmodel, hfirmware⟩
    · rintro ⟨hstate, hstatus, ⟨hcondition, hindex⟩, hmodel, hfirmware⟩
      refine ⟨⟨hstate, hstatus, hcondition, ?_⟩, hindex, hmodel, hfirmware⟩
      -- The credit takes the stacked bit and the index, on which the bytes agree.
      have hstacked : reports x .stacked = reports y .stacked :=
        (reports_eq_iff_of_table isBit_of_mem_stateBits reports_of_mem_stateBits x y).mpr hstate
          (0x10, .stacked) (by decide)
      have hsame := (billIndex_eq_iff _ _).mpr hindex
      show (reports x .stacked && billIndex (dataByte x 2) != 0) =
        (reports y .stacked && billIndex (dataByte y 2) != 0)
      rw [hstacked, hsame]

/-- A stacked bill of the first name, in a frame and in bytes that form none. -/
theorem decode_faithful_stacked :
    let framed : List UInt8 := Frame.encode Frame.replyType [0x10, 0x10, 0x08, 0x01, 0x02, 0x00]
    let loose : List UInt8 := [0x00, 0x00, 0x00, 0x90, 0xF0, 0xC8, 0x01, 0x02, 0x00, 0x00]
    (decode Codec.usual framed).events = [.stacked, .credit] ∧
      Codec.usual.billNames[0]? = some (decode Codec.usual framed).billName ∧
      (decode Codec.usual framed).creditAction = .none ∧
      (decode Codec.usual framed).events = (decode Codec.usual loose).events ∧
      (decode Codec.usual framed).billName = (decode Codec.usual loose).billName := by
  intro framed loose
  have htexts : ∀ name ∈ Codec.usual.billNames, ∃ s, name = .text s := by
    simp [Codec.usual, Codec.usualBillNames]
  obtain ⟨-, -, -, -, hname, haction, hagree⟩ :=
    decode_faithful Codec.usual (by decide) htexts framed loose
  have hindex : billIndex (dataByte framed 2) = 1 := by decide
  rw [hindex] at hname
  obtain ⟨hevents, hnames, -⟩ := hagree.mpr (by decide)
  exact ⟨by decide, hname (by decide), haction.trans (if_neg (by decide)), hevents, hnames⟩

end Reply

end AcceptorHost
