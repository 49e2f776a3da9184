/-!
# Halves of pairs

JSON text can name one half of a pair of sixteen bit units without the other,
which is no character.  Such a half is kept as a private character of its own,
so that it can be written back as the half that it is.  The 2048 private
characters from U+10F000 on are taken for that, and a text that holds one of
them itself is not told apart from a text with the half it stands for.
-/

namespace AcceptorHost

namespace HalfPair

/-- The first of the private characters that stand for halves. -/
def base : Nat := 0x10f000

/-- The first half of a pair is from here on. -/
def firstUnit : Nat := 0xd800

/-- How many halves there are. -/
def count : Nat := 0x800

/-- The character that stands for a half. -/
def ofUnit (n : Nat) : Char := Char.ofNat (base + (n - firstUnit))

/-- The half that a character stands for. -/
def unit? (c : Char) : Option Nat :=
  if base ≤ c.toNat ∧ c.toNat < base + count then some (c.toNat - base + firstUnit) else none

theorem toNat_ofUnit
    {n : Nat}
    (hlast : n < firstUnit + count) :
    (ofUnit n).toNat = base + (n - firstUnit) := by
  have hbound : 0xdfff < base + (n - firstUnit) ∧ base + (n - firstUnit) < 0x110000 := by
    unfold base firstUnit count at *
    omega
  rw [ofUnit, Char.ofNat, dif_pos (.inr hbound)]
  rfl

/-- A half that was read is the half that its character stands for. -/
theorem unit?_ofUnit
    {n : Nat}
    (hfirst : firstUnit ≤ n)
    (hlast : n < firstUnit + count) :
    unit? (ofUnit n) = some n := by
  have hrange : base ≤ base + (n - firstUnit) ∧ base + (n - firstUnit) < base + count :=
    ⟨Nat.le_add_right _ _, by omega⟩
  rw [unit?, toNat_ofUnit hlast, if_pos hrange]
  exact congrArg some (by omega)

end HalfPair

end AcceptorHost
