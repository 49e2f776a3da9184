import AcceptorHost.Proofs.Alternation
import AcceptorHost.Proofs.Frames

/-!
# The stream of commands

The link carries seven bits of each byte, so a command has to do without the
eighth, its checksum included; the exclusive or of bytes below 0x80 is below
0x80 too.  The commands that one codec gives differ in their payloads, and the
third byte alone tells a poll, a reset and a query for the serial number
apart.  Calls that a codec refuses change nothing, so they may come between
the commands without a trace in the stream.
-/

namespace AcceptorHost

/-! ## Seven bits -/

/-- A byte that passes a link of seven data bits. -/
def IsSeptet (b : UInt8) : Prop := b ≤ 0x7F

instance (b : UInt8) : Decidable (IsSeptet b) := inferInstanceAs (Decidable (b ≤ 0x7F))

namespace IsSeptet

theorem iff_toNat_lt
    (b : UInt8) :
    IsSeptet b ↔ b.toNat < 128 := by
  rw [IsSeptet, UInt8.le_iff_toNat_le]
  exact Nat.lt_succ_iff.symm

theorem xor
    {a b : UInt8}
    (ha : IsSeptet a)
    (hb : IsSeptet b) :
    IsSeptet (a ^^^ b) := by
  rw [iff_toNat_lt] at ha hb ⊢
  rw [UInt8.toNat_xor]
  exact Nat.xor_lt_two_pow (n := 7) ha hb

theorem or
    {a b : UInt8}
    (ha : IsSeptet a)
    (hb : IsSeptet b) :
    IsSeptet (a ||| b) := by
  rw [iff_toNat_lt] at ha hb ⊢
  rw [UInt8.toNat_or]
  exact Nat.or_lt_two_pow (n := 7) ha hb

theorem ofNat
    {n : Nat}
    (hn : n < 128) :
    IsSeptet (UInt8.ofNat n) := by
  rw [iff_toNat_lt, UInt8.toNat_ofNat_of_lt' (show n < 256 by omega)]
  exact hn

theorem checksum
    {bs : List UInt8}
    (hbs : ∀ b ∈ bs, IsSeptet b) :
    IsSeptet (Frame.checksum bs) := by
  induction bs with
  | nil =>
      exact (by decide : IsSeptet 0)
  | cons b bs ih =>
      rw [Frame.checksum_cons]
      exact (hbs b (by simp)).xor (ih fun a ha => hbs a (by simp [ha]))

/-- A short frame whose type and payload keep to seven bits does so as a whole. -/
theorem of_mem_encode
    {kind : UInt8}
    {payload : List UInt8}
    (hkind : IsSeptet kind)
    (hpayload : ∀ b ∈ payload, IsSeptet b)
    (hshort : payload.length + Frame.overhead < 128) :
    ∀ b ∈ Frame.encode kind payload, IsSeptet b := by
  have hbody : ∀ b ∈ Frame.body kind payload, IsSeptet b := by
    intro b hb
    rw [Frame.body, List.mem_cons, List.mem_cons] at hb
    rcases hb with rfl | rfl | hb
    · exact ofNat hshort
    · exact hkind
    · exact hpayload b hb
  intro b hb
  simp only [Frame.encode, List.cons_append, List.mem_cons, List.mem_append, List.not_mem_nil,
    or_false] at hb
  rcases hb with rfl | hb | rfl | rfl
  · exact (by decide : IsSeptet Frame.startByte)
  · exact hbody b hb
  · exact (by decide : IsSeptet Frame.endByte)
  · exact checksum hbody

end IsSeptet

/-! ## Commands and their payloads -/

/-- A command that the host can give. -/
inductive Command where
  | poll (action : CreditAction)
  | reset
  | identity
  deriving DecidableEq, Repr

namespace Command

/-- The type of a command, without the acknowledgement bit. -/
def kind : Command → UInt8
  | .poll _ => 0x10
  | .reset => 0x60
  | .identity => 0x60

/-- The payload of a command of a codec that was made for these bits. -/
def payload (enabled : Int) : Command → List UInt8
  | .poll action => [UInt8.ofNat (enabled % 128).toNat, 0x10 ||| action.bits, 0x00]
  | .reset => [0x7F, 0x7F, 0x7F]
  | .identity => [0x00, 0x00, 0x05]

/-- The command that a payload stands for. -/
def ofPayload? : List UInt8 → Option Command
  | [_, 0x10, 0x00] => some (.poll .none)
  | [_, 0x30, 0x00] => some (.poll .accept)
  | [_, 0x50, 0x00] => some (.poll .giveBack)
  | [0x7F, 0x7F, 0x7F] => some .reset
  | [0x00, 0x00, 0x05] => some .identity
  | _ => none

/-- A command can be read off its payload, whatever bills are enabled. -/
theorem ofPayload?_payload
    (enabled : Int)
    (m : Command) :
    ofPayload? (m.payload enabled) = some m := by
  cases m with
  | poll action =>
      cases action <;> rfl
  | reset =>
      rfl
  | identity =>
      rfl

theorem length_payload
    (enabled : Int)
    (m : Command) :
    (m.payload enabled).length = 3 := by
  cases m <;> rfl

theorem isSeptet_kind
    (m : Command) :
    IsSeptet m.kind := by
  cases m with
  | poll action =>
      exact (by decide : IsSeptet 0x10)
  | reset =>
      decide
  | identity =>
      decide

theorem isSeptet_of_mem_payload
    (enabled : Int)
    (m : Command) :
    ∀ b ∈ m.payload enabled, IsSeptet b := by
  cases m with
  | poll action =>
      have hbills : IsSeptet (UInt8.ofNat (enabled % 128).toNat) :=
        IsSeptet.ofNat (by omega)
      have haction : IsSeptet (0x10 ||| action.bits) := by
        cases action <;> decide
      simp only [payload, List.forall_mem_cons]
      exact ⟨hbills, haction, by decide, by simp⟩
  | reset =>
      simp only [payload, List.forall_mem_cons]
      exact ⟨by decide, by decide, by decide, by simp⟩
  | identity =>
      simp only [payload, List.forall_mem_cons]
      exact ⟨by decide, by decide, by decide, by simp⟩

end Command

namespace Codec

/-- The bytes of a command of a codec. -/
def give (c : Codec) : Command → List UInt8
  | .poll action => c.normalCommand action
  | .reset => c.resetCommand
  | .identity => c.identityCommand

/-- A codec that was made for these bits of enabled bills. -/
def MadeFor (enabled : Int) (c : Codec) : Prop := c.enabledBills = BitVec.ofInt 7 enabled

theorem MadeFor.after
    {enabled : Int}
    {c : Codec}
    (h : c.MadeFor enabled)
    (n : Nat) :
    (c.after n).MadeFor enabled := by
  unfold Codec.after
  split <;> exact h

/-- A command is the frame of its type and its payload. -/
theorem give_eq_stamped
    {enabled : Int}
    {c : Codec}
    (h : c.MadeFor enabled)
    (m : Command) :
    c.give m = c.stamped m.kind (m.payload enabled) := by
  cases m with
  | poll action =>
      have hbills : c.enabledBills.toNat = (enabled % 128).toNat := by
        rw [h, BitVec.toNat_ofInt]
        rfl
      rw [give, normalCommand, normalPayload, hbills]
      rfl
  | reset =>
      rfl
  | identity =>
      rfl

/-- A command is never refused: it is what the codec frames of its numbers. -/
theorem frame_of_command
    {enabled : Int}
    {c : Codec}
    (h : c.MadeFor enabled)
    (m : Command) :
    c.frame m.kind.toNat ((m.payload enabled).map fun b => (b.toNat : Int)) =
      .ok (c.give m, c.turned) := by
  rw [give_eq_stamped h]
  exact frame_of_bytes c m.kind (m.payload enabled) (by rw [m.length_payload]; decide)

/-- What a command of a codec looks like on the link. -/
theorem give_wellFormed
    {enabled : Int}
    {c : Codec}
    (h : c.MadeFor enabled)
    (m : Command) :
    (c.give m).length = 8 ∧
      Frame.accepts (c.give m) = true ∧
      (∀ b ∈ c.give m, IsSeptet b) ∧
      (c.give m)[2]? = some (m.kind ||| c.ackBit) ∧
      Frame.payloadPart (c.give m) = m.payload enabled := by
  have hack : IsSeptet c.ackBit := by
    unfold ackBit
    split <;> decide
  rw [give_eq_stamped h, stamped]
  refine ⟨?_, ?_, ?_, ?_, Frame.payloadPart_encode _ _⟩
  · rw [Frame.length_encode, m.length_payload]
    rfl
  · exact (Frame.accepts_iff_encode _).mpr
      ⟨_, _, by rw [m.length_payload]; decide, rfl⟩
  · exact IsSeptet.of_mem_encode (m.isSeptet_kind.or hack) (m.isSeptet_of_mem_payload enabled)
      (by rw [m.length_payload]; decide)
  · simp [Frame.encode, Frame.body]

/-! ## Calls on one codec -/

/-- What a codec can be called for: a command, or a frame of any numbers. -/
inductive Call where
  | command (m : Command)
  | frame (kind : Int) (data : List Int)
  deriving DecidableEq, Repr

namespace Call

/-- The command that is called for. -/
def command? : Call → Option Command
  | .command m => some m
  | .frame _ _ => none

/-- The numbers of a call are too many or no bytes. -/
def Unfit : Call → Prop
  | .command _ => False
  | .frame kind data =>
      kind < 0 ∨ 255 < kind ∨ 250 < data.length ∨ ∃ n ∈ data, n < 0 ∨ 255 < n

end Call

/-- The outcome of a call, and the codec after it. -/
def call (c : Codec) : Call → Except Fault (List UInt8) × Codec
  | .command m => (.ok (c.give m), c.turned)
  | .frame kind data =>
      match c.frame kind data with
      | .ok (bytes, d) => (.ok bytes, d)
      | .error f => (.error f, c)

/-- The outcomes of a row of calls. -/
def outcomes (c : Codec) : List Call → List (Except Fault (List UInt8))
  | [] => []
  | x :: more => (c.call x).1 :: (c.call x).2.outcomes more

/-- The codec after a row of calls. -/
def afterCalls (c : Codec) (calls : List Call) : Codec :=
  calls.foldl (fun d x => (d.call x).2) c

/-- The frames that a row of calls gives. -/
def framesOf (c : Codec) (calls : List Call) : List (List UInt8) :=
  (c.outcomes calls).filterMap Except.toOption

/-- The frames of a row of commands. -/
def gives (c : Codec) : List Command → List (List UInt8)
  | [] => []
  | m :: more => c.give m :: c.turned.gives more

/-- An unfit call is refused, and the codec stays as it is. -/
theorem call_of_unfit
    (c : Codec)
    {kind : Int}
    {data : List Int}
    (h : (Call.frame kind data).Unfit) :
    c.call (.frame kind data) = (.error .byteRange, c) := by
  have hrefused :
      (isByte kind && decide (data.length ≤ Frame.maxPayload) && data.all isByte) = false := by
    refine Bool.eq_false_iff.mpr fun hfit => ?_
    simp only [Bool.and_eq_true, decide_eq_true_eq, isByte, List.all_eq_true,
      Frame.maxPayload] at hfit
    obtain ⟨⟨hkind, hlength⟩, hdata⟩ := hfit
    rcases h with h | h | h | ⟨n, hn, h⟩
    · omega
    · omega
    · exact absurd (of_decide_eq_true hlength) (Nat.not_le.mpr h)
    · have := hdata n hn
      omega
  have hframe : c.frame kind data = .error .byteRange := by
    rw [frame, hrefused]
    rfl
  simp only [call, hframe]

/-- Between unfit calls the commands come as if there were nothing else. -/
theorem outcomes_of_unfit
    (c : Codec)
    {calls : List Call}
    (h : ∀ kind data, .frame kind data ∈ calls → (Call.frame kind data).Unfit) :
    c.framesOf calls = c.gives (calls.filterMap Call.command?) ∧
      c.afterCalls calls = c.after (calls.filterMap Call.command?).length ∧
      ∀ (i : Nat) (kind : Int) (data : List Int), calls[i]? = some (.frame kind data) →
        (c.outcomes calls)[i]? = some (.error .byteRange) := by
  induction calls generalizing c with
  | nil =>
      exact ⟨rfl, rfl, fun i kind data hi => by simp at hi⟩
  | cons x more ih =>
      have hmore : ∀ kind data, .frame kind data ∈ more → (Call.frame kind data).Unfit :=
        fun kind data hmem => h kind data (List.mem_cons_of_mem _ hmem)
      cases x with
      | command m =>
          obtain ⟨hframes, hafter, hraised⟩ := ih c.turned hmore
          refine ⟨?_, ?_, ?_⟩
          · exact congrArg (c.give m :: ·) hframes
          · have hturned : c.after 1 = c.turned := rfl
            show c.turned.afterCalls more = _
            rw [hafter, ← hturned, after_after, Nat.add_comm]
            rfl
          · intro i kind data hi
            cases i with
            | zero =>
                simp at hi
            | succ i =>
                exact hraised i kind data hi
      | frame kind data =>
          have hcall := c.call_of_unfit (h kind data (by simp))
          obtain ⟨hframes, hafter, hraised⟩ := ih c hmore
          refine ⟨?_, ?_, ?_⟩
          · rw [framesOf, outcomes, hcall]
            exact hframes
          · rw [afterCalls, List.foldl_cons, hcall]
            exact hafter
          · intro i kind' data' hi
            rw [outcomes, hcall]
            cases i with
            | zero =>
                rfl
            | succ i =>
                exact hraised i kind' data' hi

/-- Each command is given by the codec that has turned over once for each one before it. -/
theorem getElem?_gives
    (c : Codec)
    (ms : List Command)
    (k : Nat) :
    (c.gives ms)[k]? = ms[k]?.map (c.after k).give := by
  induction ms generalizing c k with
  | nil =>
      rfl
  | cons m more ih =>
      cases k with
      | zero =>
          rfl
      | succ k =>
          have hturned : c.turned.after k = c.after (k + 1) := by
            rw [Nat.add_comm, ← after_after]
            rfl
          rw [gives, List.getElem?_cons_succ, List.getElem?_cons_succ, ih, hturned]

theorem length_gives
    (c : Codec)
    (ms : List Command) :
    (c.gives ms).length = ms.length := by
  induction ms generalizing c with
  | nil =>
      rfl
  | cons m more ih =>
      rw [gives, List.length_cons, List.length_cons, ih]

/--
Every seven names and every integer of enabled bills make a codec, and its stream of
commands is well formed and can be read back, whatever calls that it refuses come in
between: they leave the stream and the codec as they would be without them.  Each frame
has eight bytes of seven bits, is accepted, counts the commands before it by twos in its
type byte, and holds a payload from which the command can be told.
-/
theorem command_stream_readable
    (enabled : Int)
    (names : List Value)
    (hnames : names.length = 7)
    (calls : List Call)
    (hunfit : ∀ kind data, .frame kind data ∈ calls → (Call.frame kind data).Unfit) :
    ∃ c, ofNames enabled names = .ok c ∧
      let given := calls.filterMap Call.command?
      (∀ (i : Nat) (kind : Int) (data : List Int), calls[i]? = some (.frame kind data) →
        (c.outcomes calls)[i]? = some (.error .byteRange)) ∧
      c.framesOf calls = c.framesOf (given.map Call.command) ∧
      c.afterCalls calls = c.afterCalls (given.map Call.command) ∧
      (c.framesOf calls).length = given.length ∧
      ∀ k m, given[k]? = some m →
        ∃ bytes, (c.framesOf calls)[k]? = some bytes ∧
          bytes.length = 8 ∧
          Frame.accepts bytes = true ∧
          (∀ b ∈ bytes, b ≤ 0x7F) ∧
          bytes[2]? = some (m.kind ||| UInt8.ofNat (k % 2)) ∧
          Frame.payloadPart bytes = m.payload enabled ∧
          Command.ofPayload? (Frame.payloadPart bytes) = some m := by
  let c : Codec := ⟨BitVec.ofInt 7 enabled, names, false, hnames⟩
  refine ⟨c, by rw [ofNames, dif_pos hnames], ?_⟩
  intro given
  have hgiven : (given.map Call.command).filterMap Call.command? = given := by
    rw [List.filterMap_map]
    exact List.filterMap_some
  obtain ⟨hframes, hafter, hraised⟩ := c.outcomes_of_unfit hunfit
  have hcommands : ∀ kind data, .frame kind data ∈ given.map Call.command →
      (Call.frame kind data).Unfit := by
    simp
  obtain ⟨hframes', hafter', -⟩ := c.outcomes_of_unfit hcommands
  rw [hgiven] at hframes' hafter'
  refine ⟨hraised, hframes.trans hframes'.symm, hafter.trans hafter'.symm, ?_, ?_⟩
  · rw [hframes, length_gives]
  · intro k m hk
    have hmade : (c.after k).MadeFor enabled := MadeFor.after (c := c) rfl k
    obtain ⟨hlength, haccepts, hseven, hbit, hpayload⟩ := give_wellFormed hmade m
    refine ⟨(c.after k).give m, ?_, hlength, haccepts, hseven, ?_, hpayload, ?_⟩
    · rw [hframes, getElem?_gives]
      exact congrArg (Option.map (c.after k).give) hk
    · rw [hbit, ackBit_after rfl]
    · rw [hpayload, Command.ofPayload?_payload]

/-- Three commands of a codec with all bits of bills set, with two refused calls between them. -/
theorem command_stream_readable_mixed :
    ∃ c, ofNames (-1) usualBillNames = .ok c ∧
      c.framesOf [.command (.poll .accept), .frame 300 [], .command .reset,
          .frame 16 [0, -1, 0], .command .identity] =
        [[0x02, 0x08, 0x10, 0x7F, 0x30, 0x00, 0x03, 0x57],
         [0x02, 0x08, 0x61, 0x7F, 0x7F, 0x7F, 0x03, 0x16],
         [0x02, 0x08, 0x60, 0x00, 0x00, 0x05, 0x03, 0x6D]] := by
  let calls : List Call :=
    [.command (.poll .accept), .frame 300 [], .command .reset, .frame 16 [0, -1, 0],
      .command .identity]
  have hunfit : ∀ kind data, .frame kind data ∈ calls → (Call.frame kind data).Unfit := by
    intro kind data hmem
    simp only [calls, List.mem_cons, List.not_mem_nil, reduceCtorEq, Call.frame.injEq, false_or,
      or_false] at hmem
    rcases hmem with ⟨rfl, rfl⟩ | ⟨rfl, rfl⟩
    · exact .inr (.inl (by decide))
    · exact .inr (.inr (.inr ⟨-1, by simp, by decide⟩))
  obtain ⟨c, hc, -, hframes, -⟩ := command_stream_readable (-1) usualBillNames rfl calls hunfit
  obtain rfl : (⟨BitVec.ofInt 7 (-1), usualBillNames, false, rfl⟩ : Codec) = c :=
    Except.ok.inj hc
  exact ⟨_, rfl, hframes⟩

end Codec

end AcceptorHost
