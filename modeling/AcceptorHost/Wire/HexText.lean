import AcceptorHost.Text.Hex

/-!
# Bytes as hexadecimal text

Traffic is shown as upper case pairs of digits with a space between them.  A
script of answers writes bytes as lower case digits without spaces.  Each form
has its reader; `ofSpaced?_spaced` says that a spaced text shows all of its bytes.
-/

namespace AcceptorHost

namespace HexText

/-- The upper case pair of a byte. -/
def upperPair (b : UInt8) : List Char :=
  [Hex.upperDigit (b.toNat / 16), Hex.upperDigit (b.toNat % 16)]

/-- Upper case pairs with a space between them, as characters. -/
def spacedChars : List UInt8 → List Char
  | [] => []
  | [b] => upperPair b
  | b :: rest => upperPair b ++ ' ' :: spacedChars rest

/-- Upper case pairs with a space between them. -/
def spaced (bs : List UInt8) : String := String.ofList (spacedChars bs)

/-- The lower case pair of a byte. -/
def lowerPair (b : UInt8) : List Char :=
  [Hex.lowerDigit (b.toNat / 16), Hex.lowerDigit (b.toNat % 16)]

/-- Lower case pairs without spaces. -/
def compact (bs : List UInt8) : String := String.ofList (bs.flatMap lowerPair)

/-- The byte of two digits. -/
def byte? (high low : Char) : Option UInt8 :=
  match Hex.digitValue? high, Hex.digitValue? low with
  | some h, some l => some (UInt8.ofNat (16 * h + l))
  | _, _ => none

/-- The bytes of pairs with a space between them. -/
def ofSpacedChars : List Char → Option (List UInt8)
  | [] => some []
  | [a, b] => (byte? a b).map ([·])
  | a :: b :: ' ' :: rest =>
      match byte? a b, ofSpacedChars rest with
      | some x, some xs => if xs.isEmpty then none else some (x :: xs)
      | _, _ => none
  | _ => none

/-- The bytes that a spaced text shows. -/
def ofSpaced? (s : String) : Option (List UInt8) := ofSpacedChars s.toList

theorem byte?_upperPair
    (b : UInt8) :
    byte? (Hex.upperDigit (b.toNat / 16)) (Hex.upperDigit (b.toNat % 16)) = some b := by
  have hbound : b.toNat < 256 := b.toNat_lt
  have hsum : 16 * (b.toNat / 16) + b.toNat % 16 = b.toNat := by omega
  unfold byte?
  rw [Hex.digitValue?_upperDigit (by omega), Hex.digitValue?_upperDigit (by omega)]
  simp [hsum]

theorem ofSpacedChars_spacedChars
    (bs : List UInt8) :
    ofSpacedChars (spacedChars bs) = some bs := by
  induction bs with
  | nil =>
      rfl
  | cons b rest ih =>
      cases rest with
      | nil =>
          simp [spacedChars, upperPair, ofSpacedChars, byte?_upperPair]
      | cons c more =>
          have hspaced : spacedChars (b :: c :: more) =
              Hex.upperDigit (b.toNat / 16) :: Hex.upperDigit (b.toNat % 16) :: ' '
                :: spacedChars (c :: more) := rfl
          rw [hspaced, ofSpacedChars, byte?_upperPair, ih]
          simp

/-- A spaced text shows the bytes that it was made of. -/
@[simp] theorem ofSpaced?_spaced
    (bs : List UInt8) :
    ofSpaced? (spaced bs) = some bs := by
  unfold ofSpaced? spaced
  rw [String.toList_ofList, ofSpacedChars_spacedChars]

theorem spaced_injective :
    Function.Injective spaced := by
  intro a b h
  have hread := congrArg ofSpaced? h
  simpa using hread

end HexText

end AcceptorHost
