import AcceptorHost.Fault

/-!
# Serial numbers

A serial number has nine digits in five bytes: four bytes of two digits each
and a last byte that is written without padding.  The last byte is read as a
signed number unless it is asked for unsigned.  Only the low eight bits of an
element count.
-/

namespace AcceptorHost

namespace SerialNumber

/-- The count of bytes of a serial number. -/
def size : Nat := 5

/-- The low eight bits of an integer. -/
def lowByte (n : Int) : Nat := (n % 256).toNat

/-- The two digits of a leading byte. -/
def leading (n : Int) : List Char := Hex.padded 2 (lowByte n)

/-- The digits of a number without padding. -/
def bare (n : Nat) : List Char := Nat.toDigits 16 n

/-- The text of the last byte. -/
def trailing (unsigned : Bool) (n : Int) : List Char :=
  let last := lowByte n
  if unsigned || decide (last < 128) then bare last else '-' :: bare (256 - last)

/-- The text of a serial number. -/
def render (unsigned : Bool) (elements : List Int) : Except Fault String :=
  match elements with
  | [a, b, c, d, e] =>
      .ok (String.ofList (leading a ++ leading b ++ leading c ++ leading d ++ trailing unsigned e))
  | _ => .error (.serialNumberLength elements.length)

/-- The text of the serial number of values; the count is looked at before the values. -/
def ofValues (unsigned : Bool) (elements : List Value) : Except Fault String :=
  if elements.length ≠ size then .error (.serialNumberLength elements.length)
  else
    match elements.mapM Value.integer? with
    | some ns => render unsigned ns
    | none => .error .wrongType

/-- The text of a byte string's serial number. -/
def ofBytes (unsigned : Bool) (bs : List UInt8) : Except Fault String :=
  render unsigned (bs.map fun b => (b.toNat : Int))

end SerialNumber

end AcceptorHost
