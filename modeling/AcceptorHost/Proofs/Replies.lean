import AcceptorHost.Wire.Reply
import AcceptorHost.Wire.SerialNumber

/-!
# What replies report

Each event of a reply is reported by one bit, and none of them is a credit: a credit
is drawn from a stacked bill and its name.  A serial number has a text if and only if it
is as long as it should be.
-/

namespace AcceptorHost

theorem Frame.ne_nil_of_accepts
    {x : List UInt8}
    (h : Frame.accepts x = true) :
    x ≠ [] := by
  rintro rfl
  exact absurd h (by decide)

namespace Reply

/-- Only its own bit reports a stacked bill. -/
theorem stacked_mem_reported
    (state status condition : UInt8) :
    DeviceEvent.stacked ∈ reported state status condition ↔ state &&& 0x10 ≠ 0 := by
  simp [reported, eventsOf, stateBits, faultBits, conditionBits]

/-- Only its own bit reports a bill in escrow. -/
theorem escrowed_mem_reported
    (state status condition : UInt8) :
    DeviceEvent.escrowed ∈ reported state status condition ↔ state &&& 0x04 ≠ 0 := by
  simp [reported, eventsOf, stateBits, faultBits, conditionBits]

/-- No bit reports a credit. -/
theorem credit_not_mem_reported
    (state status condition : UInt8) :
    DeviceEvent.credit ∉ reported state status condition := by
  simp [reported, eventsOf, stateBits, faultBits, conditionBits]

/-- What a frame in answer to a normal command says of the bill in escrow. -/
def decision (x : List UInt8) : CreditAction :=
  if dataByte x 0 &&& 0x04 != 0 then .accept else .none

theorem decode_creditAction
    (c : Codec)
    (x : List UInt8) :
    (decode c x).creditAction = decision x := by
  have hescrowed := escrowed_mem_reported (dataByte x 0) (dataByte x 1) (dataByte x 2)
  by_cases hbit : dataByte x 0 &&& 0x04 = 0 <;>
    simp [decode, decision, hescrowed, hbit]

end Reply

namespace SerialNumber

theorem ofBytes_of_length_eq
    (unsigned : Bool)
    {bs : List UInt8}
    (h : bs.length = size) :
    ∃ text, ofBytes unsigned bs = .ok text := by
  match bs, h with
  | [a, b, c, d, e], _ =>
      exact ⟨_, rfl⟩

theorem ofBytes_of_length_ne
    (unsigned : Bool)
    {bs : List UInt8}
    (h : bs.length ≠ size) :
    ∃ f, ofBytes unsigned bs = .error f := by
  unfold ofBytes render
  split
  · rename_i heq
    have hlength := congrArg List.length heq
    rw [List.length_map] at hlength
    exact absurd hlength h
  · exact ⟨_, rfl⟩

end SerialNumber

end AcceptorHost
